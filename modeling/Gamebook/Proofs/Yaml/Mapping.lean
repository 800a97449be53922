import Gamebook.Yaml.Reading

/-!
# Keys of a mapping

A mapping is a list of entries, but not every list of entries is one: when a text is read, an entry whose
key is the same as that of an entry before it makes the text an error.  So the keys of a mapping that was
read are distinct (`distinctKeys_of_read`), and what stands under a text does not depend on where in the
mapping the entry is (`get?_eq_some_iff`).
-/

namespace Gamebook.Yaml

/-- The key of no entry is the same as that of an entry before it. -/
def DistinctKeys (entries : List (Value × Value)) : Prop :=
  entries.Pairwise fun earlier later => later.1.same earlier.1 = false

/-! ### Looking up texts -/

namespace Value

@[simp] theorem same_string (a b : String) : same (.string a) (.string b) = (a == b) := by
  simp only [same]

theorem mem_of_get?_eq_some {name : String} {value : Value} :
    ∀ {entries : List (Value × Value)}, get? name entries = some value →
      (.string name, value) ∈ entries := by
  intro entries found
  fun_induction get? name entries with
  | case1 => cases found
  | case2 here rest =>
    obtain rfl := Option.some.inj found
    exact List.mem_cons_self
  | case3 text here rest other ih => exact List.mem_cons_of_mem _ (ih found)
  | case4 entry rest other ih => exact List.mem_cons_of_mem _ (ih found)

/-- **What stands under a text** in a mapping is its entry, wherever that is. -/
theorem get?_eq_some_iff {name : String} {value : Value} {entries : List (Value × Value)}
    (distinct : DistinctKeys entries) :
    get? name entries = some value ↔ (.string name, value) ∈ entries := by
  refine ⟨mem_of_get?_eq_some, fun member => ?_⟩
  fun_induction get? name entries with
  | case1 => cases member
  | case2 here rest =>
    rcases List.mem_cons.1 member with same | behind
    · cases same
      rfl
    · have fresh := (List.pairwise_cons.1 distinct).1 _ behind
      simp at fresh
  | case3 text here rest other ih =>
    rcases List.mem_cons.1 member with same | behind
    · cases same
      exact absurd rfl other
    · exact ih (List.pairwise_cons.1 distinct).2 behind
  | case4 entry rest other ih =>
    rcases List.mem_cons.1 member with same | behind
    · exact absurd same.symm (other _ _)
    · exact ih (List.pairwise_cons.1 distinct).2 behind

end Value

/-! ### Mappings that were read -/

section Run

variable {α β : Type} {state : Nat}

/-- A reading in two steps succeeds if both do. -/
theorem exists_of_run_bind_eq_ok {first : StateT Nat (Except Error) α}
    {second : α → StateT Nat (Except Error) β} {result : β × Nat}
    (read : (first >>= second).run state = .ok result) :
    ∃ value between, first.run state = .ok (value, between) ∧
      (second value).run between = .ok result := by
  rw [StateT.run_bind] at read
  cases start : first.run state with
  | error cause =>
    rw [start] at read
    cases read
  | ok pair =>
    rw [start] at read
    exact ⟨pair.1, pair.2, rfl, read⟩

theorem eq_ok_of_run_lift_eq_ok {start : Except Error α} {result : α × Nat}
    (read : (liftM start : StateT Nat (Except Error) α).run state = .ok result) :
    start = .ok result.1 := by
  cases start with
  | error cause => cases read
  | ok value =>
    cases read
    rfl

end Run

/-- A key that is added is new. -/
theorem forall_same_eq_false_of_addEntry {done : List (Value × Value)} {key : Value}
    (added : addEntry done key = .ok ()) : ∀ entry ∈ done, key.same entry.1 = false := by
  rw [addEntry] at added
  split at added
  · cases added
  · next fresh => simpa using fresh

/-- **Entries are read with distinct keys.** -/
theorem distinctKeys_of_readEntries {read : Linked → StateT Nat (Except Error) Value}
    {done entries : List (Value × Value)} {rest : List (Linked × Linked)} {state state' : Nat}
    (result : (readEntries read done rest).run state = .ok (entries, state'))
    (distinct : DistinctKeys done.reverse) : DistinctKeys entries := by
  induction rest generalizing done state with
  | nil =>
    cases result
    exact distinct
  | cons entry rest ih =>
    obtain ⟨key, value⟩ := entry
    rw [readEntries] at result
    obtain ⟨key, between, -, result⟩ := exists_of_run_bind_eq_ok result
    obtain ⟨⟨⟩, between', added, result⟩ := exists_of_run_bind_eq_ok result
    obtain ⟨value, between'', -, result⟩ := exists_of_run_bind_eq_ok result
    have fresh := forall_same_eq_false_of_addEntry (eq_ok_of_run_lift_eq_ok added)
    refine ih result ?_
    rw [List.reverse_cons, DistinctKeys, List.pairwise_append]
    refine ⟨distinct, List.pairwise_singleton _ _, fun earlier before later last => ?_⟩
    obtain rfl := List.mem_singleton.1 last
    exact fresh earlier (List.mem_reverse.1 before)

/-- A text is no mapping, whatever it is spelled like. -/
theorem resolve_ne_mapping {text : String} {entries : List (Value × Value)} :
    Scalar.resolve text ≠ .ok (.mapping entries) := by
  intro read
  rw [Scalar.resolve] at read
  split at read
  · cases read
  · split at read
    · cases read
    · split at read
      · next number _ => cases number <;> cases read
      · split at read <;> cases read

theorem resolveTagged_ne_mapping {tag : TagName} {text : String} {entries : List (Value × Value)} :
    Scalar.resolveTagged tag text ≠ .ok (.mapping entries) := by
  intro read
  rw [Scalar.resolveTagged] at read
  repeat' split at read
  all_goals cases read

/-- A value with a tag of its own is no mapping, so one that is has none. -/
theorem eq_of_withTag_eq_mapping {tag? : Option TagName} {value : Value}
    {entries : List (Value × Value)} (tagged : withTag tag? value = .mapping entries) :
    value = .mapping entries := by
  rw [withTag] at tagged
  split at tagged
  · cases tagged
  · exact tagged

theorem scalarValue_ne_mapping {tag? : Option TagName} {text : String} {plain : Bool}
    {entries : List (Value × Value)} : scalarValue tag? text plain ≠ .ok (.mapping entries) := by
  have other : (if plain then Scalar.resolve text else .ok (.string text)) ≠
      .ok (.mapping entries) := by
    split
    · exact resolve_ne_mapping
    · simp
  intro read
  unfold scalarValue at read
  generalize (if plain then Scalar.resolve text else .ok (.string text)) = untagged at other read
  dsimp only at read
  split at read
  · exact other read
  · cases untagged with
    | error cause => cases read
    | ok value => exact other (congrArg Except.ok (eq_of_withTag_eq_mapping (Except.ok.inj read)))
  · exact resolveTagged_ne_mapping read

/-- **A node that stands for a mapping** stands for one with distinct keys. -/
theorem distinctKeys_of_valueOf {node? : Nat → Option Linked} {depth : Nat} {node : Linked}
    {entries : List (Value × Value)} {state state' : Nat}
    (result : (valueOf node? depth node).run state = .ok (.mapping entries, state')) :
    DistinctKeys entries := by
  cases depth with
  | zero =>
    rw [valueOf] at result
    obtain ⟨found, between, -, result⟩ := exists_of_run_bind_eq_ok result
    split at result
    · cases result
    · exact absurd (eq_ok_of_run_lift_eq_ok result) scalarValue_ne_mapping
    · cases result
  | succ depth =>
    rw [valueOf] at result
    obtain ⟨found, between, -, result⟩ := exists_of_run_bind_eq_ok result
    split at result
    · cases result
    · exact absurd (eq_ok_of_run_lift_eq_ok result) scalarValue_ne_mapping
    · obtain ⟨items, between', -, result⟩ := exists_of_run_bind_eq_ok result
      have tagged := eq_of_withTag_eq_mapping (congrArg Prod.fst (Except.ok.inj result))
      cases tagged
    · obtain ⟨members, between', read, result⟩ := exists_of_run_bind_eq_ok result
      have tagged := eq_of_withTag_eq_mapping (congrArg Prod.fst (Except.ok.inj result))
      cases tagged
      exact distinctKeys_of_readEntries read .nil

/-- **A text that is read as a mapping** has one with distinct keys. -/
theorem distinctKeys_of_read {text : String} {entries : List (Value × Value)}
    (read : Value.read text = .ok (.mapping entries)) : DistinctKeys entries := by
  simp only [Value.read, bind, Except.bind] at read
  split at read
  · cases read
  · split at read
    · cases read
    · split at read
      · cases read
      · split at read
        · cases read
        · split at read
          · cases read
          · next pair result =>
            obtain ⟨value, state⟩ := pair
            cases read
            exact distinctKeys_of_valueOf result

end Gamebook.Yaml
