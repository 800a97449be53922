import Gamebook.Analysis.Cycle
import Mathlib.Data.List.Chain
import Mathlib.Data.List.Rotate

/-!
# The canonical form of a cycle

Two closed walks are the same loop when one is the other begun elsewhere.  The canonical form decides
that: `canonicalCycle_eq_iff` says that two lists of names have one canonical form exactly when each is a
rotation of the other.

## Why ties do no harm

`leastRotation` compares a rotation with the best one so far only, and keeps the first of several equal
ones.  A name may occur more than once, so there may be several, at different positions.  But the
canonical form does not speak of positions: it is the least *list* among the rotations, and a set has
only one least element.  Two lists that are rotations of each other have the same rotations, hence the
same least one.
-/

namespace Gamebook.Analysis

/-! ### Rotations -/

section Rotations

variable {α β : Type}

/-- A rotation at a position within the list is Mathlib's. -/
theorem rotated_eq_rotate {items : List α} {position : Nat} (h : position ≤ items.length) :
    rotated items position = items.rotate position :=
  (List.rotate_eq_drop_append_take h).symm

theorem isRotated_rotated (items : List α) (position : Nat) : items ~r rotated items position := by
  rcases Nat.le_total position items.length with h | h
  · exact ⟨position, (rotated_eq_rotate h).symm⟩
  · refine ⟨0, ?_⟩
    rw [rotated, List.drop_eq_nil_of_le h, List.take_of_length_le h, List.rotate_zero,
      List.nil_append]

theorem exists_rotated_of_isRotated {items others : List α} (h : items ~r others)
    (nonempty : items ≠ []) :
    ∃ position < items.length, rotated items position = others := by
  obtain ⟨n, rfl⟩ := h
  have positive : 0 < items.length := List.length_pos_of_ne_nil nonempty
  refine ⟨n % items.length, Nat.mod_lt _ positive, ?_⟩
  rw [rotated_eq_rotate (Nat.mod_lt _ positive).le, List.rotate_mod]

@[simp] theorem map_rotated (f : α → β) (items : List α) (position : Nat) :
    (rotated items position).map f = rotated (items.map f) position := by
  rw [rotated, rotated, List.map_append, List.map_drop, List.map_take]

@[simp] theorem map_closed (f : α → β) (items : List α) : (closed items).map f = closed (items.map f) := by
  cases items with
  | nil => rfl
  | cons first rest => simp [closed]

@[simp] theorem mem_closed {items : List α} {item : α} : item ∈ closed items ↔ item ∈ items := by
  cases items with
  | nil => rfl
  | cons first rest =>
    rw [closed, List.mem_append, List.mem_singleton, List.mem_cons]
    tauto

@[simp] theorem closed_eq_nil_iff {items : List α} : closed items = [] ↔ items = [] := by
  cases items <;> simp [closed]

@[simp] theorem dropLast_closed (items : List α) : (closed items).dropLast = items := by
  cases items with
  | nil => rfl
  | cons first rest => rw [closed, List.dropLast_concat]

/-- A closed list ends with the item that it begins with. -/
theorem getLast?_closed (items : List α) : (closed items).getLast? = (closed items).head? := by
  cases items with
  | nil => rfl
  | cons first rest => rw [closed, List.getLast?_concat, List.cons_append, List.head?_cons]

/-- A closed walk of two parts may begin with either. -/
theorem isChain_closed_append_comm {r : α → α → Prop} :
    ∀ {before after : List α}, (closed (before ++ after)).IsChain r →
      (closed (after ++ before)).IsChain r
  | [], after, chain => by rwa [List.append_nil]
  | first :: before, [], chain => by rwa [List.append_nil] at chain
  | first :: before, first' :: after, chain => by
    -- both are the parts up to where they meet the beginning of the other
    have cut : ∀ {x y : α} {xs ys : List α}, (closed (x :: xs ++ y :: ys)).IsChain r ↔
        (x :: xs ++ [y]).IsChain r ∧ (y :: (ys ++ [x])).IsChain r := by
      intro x y xs ys
      have h : closed (x :: xs ++ y :: ys) = x :: xs ++ y :: (ys ++ [x]) := by simp [closed]
      rw [h, List.isChain_split]
    exact cut.2 (cut.1 chain).symm

/-- **A closed walk may begin anywhere.**  What holds between neighbours of a closed list holds between
neighbours of its rotations, closed. -/
theorem isChain_closed_of_isRotated {r : α → α → Prop} {items others : List α}
    (h : items ~r others) (chain : (closed items).IsChain r) : (closed others).IsChain r := by
  by_cases nonempty : items = []
  · subst nonempty
    rw [List.isRotated_nil_iff'] at h
    rw [← h]
    exact List.isChain_nil
  · obtain ⟨position, -, rfl⟩ := exists_rotated_of_isRotated h nonempty
    refine isChain_closed_append_comm ?_
    rwa [List.take_append_drop]

theorem closed_injective {items others : List α} (h : closed items = closed others) :
    items = others := by
  rw [← dropLast_closed items, h, dropLast_closed]

end Rotations

/-! ### The least rotation -/

/-- **What a search for the least keeps is one of the candidates, and none is below it.** -/
theorem foldl_least {ι : Type} (value : ι → List String) :
    ∀ (candidates : List ι) (best : ι),
      let least := candidates.foldl
        (fun best candidate => if value candidate < value best then candidate else best) best
      least ∈ best :: candidates ∧ ∀ candidate ∈ best :: candidates, ¬ value candidate < value least
  | [], best => by
    refine ⟨List.mem_cons_self, fun candidate member => ?_⟩
    rw [List.mem_singleton.1 member]
    exact Std.lt_irrefl
  | next :: rest, best => by
    simp only [List.foldl_cons]
    by_cases below : value next < value best
    · rw [if_pos below]
      obtain ⟨member, least⟩ := foldl_least value rest next
      refine ⟨List.mem_cons_of_mem _ member, fun candidate h => ?_⟩
      rcases List.mem_cons.1 h with rfl | h
      · exact fun lower => least next List.mem_cons_self (Std.lt_trans below lower)
      · exact least candidate h
    · rw [if_neg below]
      obtain ⟨member, least⟩ := foldl_least value rest best
      refine ⟨?_, fun candidate h => ?_⟩
      · rcases List.mem_cons.1 member with h | h
        · rw [h]
          exact List.mem_cons_self
        · exact List.mem_cons_of_mem _ (List.mem_cons_of_mem _ h)
      · rcases List.mem_cons.1 h with rfl | h
        · exact least candidate List.mem_cons_self
        · rcases List.mem_cons.1 h with rfl | h
          · exact fun lower => least best List.mem_cons_self
              (Std.lt_of_le_of_lt (Std.not_lt.1 below) lower)
          · exact least candidate (List.mem_cons_of_mem _ h)

/-- No rotation is below the least one. -/
theorem not_lt_leastRotation {names other : List String} (h : names ~r other) :
    ¬ other < rotated names (leastRotation names) := by
  by_cases nonempty : names = []
  · subst nonempty
    rw [List.isRotated_nil_iff'] at h
    subst h
    exact List.not_lt_nil _
  · obtain ⟨position, inside, rfl⟩ := exists_rotated_of_isRotated h nonempty
    have least := (foldl_least (rotated names) (List.range names.length) 0).2 position
      (List.mem_cons_of_mem _ (List.mem_range.2 inside))
    exact least

/-- **Rotations of each other have one least rotation.** -/
theorem rotated_leastRotation_eq_of_isRotated {names others : List String} (h : names ~r others) :
    rotated names (leastRotation names) = rotated others (leastRotation others) := by
  have notBelow := not_lt_leastRotation (h.trans (isRotated_rotated others (leastRotation others)))
  have notAbove := not_lt_leastRotation
    (h.symm.trans (isRotated_rotated names (leastRotation names)))
  exact Std.le_antisymm (Std.not_lt.1 notBelow) (Std.not_lt.1 notAbove)

/-! ### The canonical form -/

/-- **The canonical form tells cycles apart and nothing else.** -/
theorem canonicalCycle_eq_iff {names others : List String} :
    canonicalCycle names = canonicalCycle others ↔ names ~r others := by
  constructor
  · intro h
    have least := closed_injective h
    refine (isRotated_rotated names (leastRotation names)).trans ?_
    rw [least]
    exact (isRotated_rotated others (leastRotation others)).symm
  · intro h
    rw [canonicalCycle, canonicalCycle, rotated_leastRotation_eq_of_isRotated h]

@[simp] theorem mem_canonicalCycle {names : List String} {name : String} :
    name ∈ canonicalCycle names ↔ name ∈ names := by
  rw [canonicalCycle, mem_closed, mem_rotated]

@[simp] theorem dropLast_canonicalCycle (names : List String) :
    (canonicalCycle names).dropLast = rotated names (leastRotation names) := by
  rw [canonicalCycle, dropLast_closed]

/-- A rotation of the names that is not above any rotation of them, in lexicographic order. -/
structure IsLeastRotation (names least : List String) : Prop where
  isRotated : names ~r least
  eq_or_lt : ∀ other, names ~r other → least = other ∨ least < other

theorem isLeastRotation_rotated (names : List String) :
    IsLeastRotation names (rotated names (leastRotation names)) where
  isRotated := isRotated_rotated names _
  eq_or_lt other rotation := by
    by_cases below : rotated names (leastRotation names) < other
    · exact .inr below
    · exact .inl (Std.le_antisymm (Std.not_lt.1 (not_lt_leastRotation rotation)) (Std.not_lt.1 below))

/-- **The canonical form is a complete invariant of cycles.**  Two lists of names have one canonical form
exactly when each is a rotation of the other, also where names repeat.  The canonical form is the least
rotation with its first name repeated at its end. -/
theorem canonicalCycle_complete_invariant (names others : List String) :
    (canonicalCycle names = canonicalCycle others ↔ names ~r others) ∧
      IsLeastRotation names (canonicalCycle names).dropLast ∧
      (canonicalCycle names).getLast? = (canonicalCycle names).head? := by
  refine ⟨canonicalCycle_eq_iff, ?_, getLast?_closed _⟩
  rw [dropLast_canonicalCycle]
  exact isLeastRotation_rotated names

-- two rotations of this cycle are least, and they are one list
example : canonicalCycle ["b", "a", "b", "a"] = ["a", "b", "a", "b", "a"] := by decide

end Gamebook.Analysis
