/-!
# Tables keyed by names

The groups of a story, the choices of a variant and the severities of a settings file are all looked
up by name, and every walk over them is in the order of the names.  A table keeps its entries in
strictly increasing order, so that the order is a property of the table and not of its history: two
tables with the same entries are equal, whatever was entered first.

A table is known by what is found in it: `ext_find?` says that nothing else tells two tables apart.
The one way to change a table is `upsert`, which replaces the value under a name by a function of the
value that was there, or of nothing.  What it does is said once, by `find?_upsert_self` and
`find?_upsert_of_ne`.
-/

namespace Gamebook

/-- The names stand in strictly increasing order. -/
def NamesIncrease {α : Type} (entries : List (String × α)) : Prop :=
  entries.Pairwise fun a b => a.1 < b.1

/-- Values under names, in the order of the names. -/
structure NameTable (α : Type) where
  /-- The names with their values. -/
  entries : List (String × α)
  /-- No name occurs twice, and the names increase. -/
  increasing : NamesIncrease entries

namespace NameTable

variable {α β : Type}

instance [DecidableEq α] : DecidableEq (NameTable α) := fun s t =>
  decidable_of_iff (s.entries = t.entries) (by cases s; cases t; simp)

/-! ### The empty table and reading -/

/-- The table without entries. -/
def empty : NameTable α := ⟨[], List.Pairwise.nil⟩

instance : Inhabited (NameTable α) := ⟨empty⟩

/-- The names of a table. -/
def names (t : NameTable α) : List String := t.entries.map (·.1)

/-- The values of a table, in the order of their names. -/
def values (t : NameTable α) : List α := t.entries.map (·.2)

/-- The number of entries. -/
def size (t : NameTable α) : Nat := t.entries.length

/-- The value under a name in a list of entries. -/
def findIn? (name : String) : List (String × α) → Option α
  | [] => none
  | entry :: rest => if entry.1 = name then some entry.2 else findIn? name rest

/-- The value under a name. -/
def find? (t : NameTable α) (name : String) : Option α := findIn? name t.entries

/-- The table has a value under the name. -/
def contains (t : NameTable α) (name : String) : Bool := (t.find? name).isSome

@[simp] theorem entries_empty : (empty : NameTable α).entries = [] := rfl

@[simp] theorem find?_empty (name : String) : (empty : NameTable α).find? name = none := rfl

theorem mem_of_findIn?_eq_some {name : String} {value : α} :
    ∀ {entries : List (String × α)}, findIn? name entries = some value → (name, value) ∈ entries
  | [], h => by simp [findIn?] at h
  | (name', value') :: rest, h => by
    by_cases hn : name' = name
    · subst hn
      simp only [findIn?, if_pos, Option.some.injEq] at h
      simp [h]
    · rw [findIn?, if_neg hn] at h
      exact List.mem_cons_of_mem _ (mem_of_findIn?_eq_some h)

/-- A name below all names of a list is not found in it. -/
theorem findIn?_eq_none_of_lt {name : String} {entries : List (String × α)}
    (below : ∀ entry ∈ entries, name < entry.1) : findIn? name entries = none := by
  cases found : findIn? name entries with
  | none => rfl
  | some value => exact absurd (below _ (mem_of_findIn?_eq_some found)) (String.lt_irrefl _)

theorem findIn?_of_mem {name : String} {value : α} :
    ∀ {entries : List (String × α)}, NamesIncrease entries → (name, value) ∈ entries →
      findIn? name entries = some value
  | [], _, member => absurd member List.not_mem_nil
  | head :: rest, increasing, member => by
    obtain ⟨first, later⟩ := List.pairwise_cons.1 increasing
    rcases List.mem_cons.1 member with same | member
    · subst same
      simp [findIn?]
    · have other : head.1 ≠ name := fun same =>
        String.lt_irrefl name (same ▸ first (name, value) member)
      rw [findIn?, if_neg other]
      exact findIn?_of_mem later member

/-- **What is found under a name is its entry.** -/
theorem find?_eq_some_iff {t : NameTable α} {name : String} {value : α} :
    t.find? name = some value ↔ (name, value) ∈ t.entries :=
  ⟨mem_of_findIn?_eq_some, findIn?_of_mem t.increasing⟩

theorem entries_eq_of_findIn?_eq :
    ∀ {entries others : List (String × α)}, NamesIncrease entries → NamesIncrease others →
      (∀ name, findIn? name entries = findIn? name others) → entries = others
  | [], [], _, _, _ => rfl
  | [], head :: rest, _, _, same => by
    have h := same head.1
    simp [findIn?] at h
  | head :: rest, [], _, _, same => by
    have h := same head.1
    simp [findIn?] at h
  | (name, value) :: rest, (name', value') :: rest', increasing, increasing', same => by
    obtain ⟨first, later⟩ := List.pairwise_cons.1 increasing
    obtain ⟨first', later'⟩ := List.pairwise_cons.1 increasing'
    have notBelow : ¬ name < name' := by
      intro below
      have absent : findIn? name ((name', value') :: rest') = none :=
        findIn?_eq_none_of_lt fun entry member => by
          rcases List.mem_cons.1 member with rfl | member
          · exact below
          · exact String.lt_trans below (first' entry member)
      have h := same name
      rw [absent] at h
      simp [findIn?] at h
    have notAbove : ¬ name' < name := by
      intro above
      have absent : findIn? name' ((name, value) :: rest) = none :=
        findIn?_eq_none_of_lt fun entry member => by
          rcases List.mem_cons.1 member with rfl | member
          · exact above
          · exact String.lt_trans above (first entry member)
      have h := same name'
      rw [absent] at h
      simp [findIn?] at h
    have names : name = name' :=
      String.le_antisymm (String.not_lt.1 notAbove) (String.not_lt.1 notBelow)
    subst names
    have values : value = value' := by
      have h := same name
      simp only [findIn?, if_pos, Option.some.injEq] at h
      exact h
    subst values
    rw [entries_eq_of_findIn?_eq later later' fun other => ?_]
    by_cases h : name = other
    · subst h
      rw [findIn?_eq_none_of_lt first, findIn?_eq_none_of_lt first']
    · have rests := same other
      simp only [findIn?, if_neg h] at rests
      exact rests

/-- **Two tables in which the same is found under every name are equal.** -/
theorem ext_find? {s t : NameTable α} (same : ∀ name, s.find? name = t.find? name) : s = t := by
  cases s with
  | mk entries increasing =>
    cases t with
    | mk others increasing' =>
      have equal : entries = others := entries_eq_of_findIn?_eq increasing increasing' same
      subst equal
      rfl

/-- A value that is found is one of the values. -/
theorem mem_values_of_find?_eq_some {t : NameTable α} {name : String} {value : α}
    (h : t.find? name = some value) : value ∈ t.values :=
  List.mem_map.2 ⟨(name, value), mem_of_findIn?_eq_some h, rfl⟩

/-- A name under which a value is found is one of the names. -/
theorem mem_names_of_find?_eq_some {t : NameTable α} {name : String} {value : α}
    (h : t.find? name = some value) : name ∈ t.names :=
  List.mem_map.2 ⟨(name, value), mem_of_findIn?_eq_some h, rfl⟩

/-! ### Changing one entry -/

/-- Replace the value under a name in a list of entries, in its place in the order. -/
def upsertIn (name : String) (change : Option α → α) : List (String × α) → List (String × α)
  | [] => [(name, change none)]
  | entry :: rest =>
    if name < entry.1 then (name, change none) :: entry :: rest
    else if entry.1 = name then (name, change (some entry.2)) :: rest
    else entry :: upsertIn name change rest

theorem mem_names_of_mem_upsertIn {name : String} {change : Option α → α} {entry : String × α} :
    ∀ {entries : List (String × α)}, entry ∈ upsertIn name change entries →
      entry.1 = name ∨ entry ∈ entries
  | [], h => by
    simp only [upsertIn, List.mem_singleton] at h
    exact .inl (h ▸ rfl)
  | head :: rest, h => by
    rw [upsertIn] at h
    split at h
    · rcases List.mem_cons.1 h with h | h
      · exact .inl (h ▸ rfl)
      · exact .inr h
    · split at h
      · rcases List.mem_cons.1 h with h | h
        · exact .inl (h ▸ rfl)
        · exact .inr (List.mem_cons_of_mem _ h)
      · rcases List.mem_cons.1 h with h | h
        · exact .inr (h ▸ List.mem_cons_self)
        · rcases mem_names_of_mem_upsertIn h with h | h
          · exact .inl h
          · exact .inr (List.mem_cons_of_mem _ h)

theorem namesIncrease_upsertIn (name : String) (change : Option α → α) :
    ∀ {entries : List (String × α)}, NamesIncrease entries →
      NamesIncrease (upsertIn name change entries)
  | [], _ => by simp [upsertIn, NamesIncrease]
  | head :: rest, h => by
    obtain ⟨first, later⟩ := List.pairwise_cons.1 h
    rw [upsertIn]
    split
    · next below =>
      refine List.pairwise_cons.2 ⟨fun entry member => ?_, h⟩
      rcases List.mem_cons.1 member with member | member
      · exact member ▸ below
      · exact String.lt_trans below (first entry member)
    · next notBelow =>
      split
      · next same =>
        subst same
        exact List.pairwise_cons.2 ⟨first, later⟩
      · next other =>
        have above : head.1 < name :=
          Std.lt_of_le_of_ne (String.not_lt.1 notBelow) other
        refine List.pairwise_cons.2 ⟨fun entry member => ?_, namesIncrease_upsertIn name change later⟩
        rcases mem_names_of_mem_upsertIn member with same | member
        · exact same ▸ above
        · exact first entry member

/-- Replace the value under a name by a function of what is there. -/
def upsert (t : NameTable α) (name : String) (change : Option α → α) : NameTable α :=
  ⟨upsertIn name change t.entries, namesIncrease_upsertIn name change t.increasing⟩

/-- Put a value under a name, in place of the one that may be there. -/
def insert (t : NameTable α) (name : String) (value : α) : NameTable α :=
  t.upsert name fun _ => value

/-- The table of a list of entries; of two under one name the later one counts. -/
def ofList (entries : List (String × α)) : NameTable α :=
  entries.foldl (fun t entry => t.insert entry.1 entry.2) empty

theorem findIn?_upsertIn_self (name : String) (change : Option α → α) :
    ∀ {entries : List (String × α)}, NamesIncrease entries →
      findIn? name (upsertIn name change entries) = some (change (findIn? name entries))
  | [], _ => by simp [upsertIn, findIn?]
  | head :: rest, h => by
    obtain ⟨first, later⟩ := List.pairwise_cons.1 h
    rw [upsertIn]
    split
    · next below =>
      have absent : findIn? name (head :: rest) = none :=
        findIn?_eq_none_of_lt fun entry member => by
          rcases List.mem_cons.1 member with same | member
          · exact same ▸ below
          · exact String.lt_trans below (first entry member)
      rw [absent]
      simp [findIn?]
    · split
      · next same => simp [findIn?, same]
      · next other =>
        simp only [findIn?, if_neg other]
        exact findIn?_upsertIn_self name change later

theorem findIn?_upsertIn_of_ne {name other : String} (change : Option α → α) (h : other ≠ name) :
    ∀ entries : List (String × α),
      findIn? other (upsertIn name change entries) = findIn? other entries
  | [] => by simp [upsertIn, findIn?, Ne.symm h]
  | head :: rest => by
    rw [upsertIn]
    split
    · simp [findIn?, Ne.symm h]
    · split
      · next same => simp [findIn?, same, Ne.symm h]
      · simp only [findIn?]
        rw [findIn?_upsertIn_of_ne change h rest]

/-- **After a change, the name has the changed value.** -/
@[simp] theorem find?_upsert_self (t : NameTable α) (name : String) (change : Option α → α) :
    (t.upsert name change).find? name = some (change (t.find? name)) :=
  findIn?_upsertIn_self name change t.increasing

/-- **A change under one name is not seen under another.** -/
theorem find?_upsert_of_ne (t : NameTable α) {name other : String} (change : Option α → α)
    (h : other ≠ name) : (t.upsert name change).find? other = t.find? other :=
  findIn?_upsertIn_of_ne change h t.entries

/-! ### Changing all values -/

theorem namesIncrease_map (f : String → α → β) {entries : List (String × α)}
    (h : NamesIncrease entries) :
    NamesIncrease (entries.map fun entry => (entry.1, f entry.1 entry.2)) :=
  List.pairwise_map.2 h

/-- Every value replaced by a function of its name and itself. -/
def map (t : NameTable α) (f : String → α → β) : NameTable β :=
  ⟨t.entries.map fun entry => (entry.1, f entry.1 entry.2), namesIncrease_map f t.increasing⟩

@[simp] theorem entries_map (t : NameTable α) (f : String → α → β) :
    (t.map f).entries = t.entries.map fun entry => (entry.1, f entry.1 entry.2) := rfl

end NameTable

end Gamebook
