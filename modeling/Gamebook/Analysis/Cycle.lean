/-!
# Cycles of names

A loop is a cycle of group names, and a cycle has no first name: walking it from another of its
groups gives a rotation.  Loops are told apart by their canonical form, the least rotation in
lexicographic order closed by repeating its first name.  Names may repeat within a cycle, so several
rotations may be least; they are then equal as lists, and the first of them is taken.
-/

namespace Gamebook.Analysis

/-- The list cut at a position and put together the other way round. -/
def rotated {α : Type} (items : List α) (position : Nat) : List α :=
  items.drop position ++ items.take position

@[simp] theorem rotated_zero {α : Type} (items : List α) : rotated items 0 = items := by
  simp [rotated]

@[simp] theorem length_rotated {α : Type} (items : List α) (position : Nat) :
    (rotated items position).length = items.length := by
  simp only [rotated, List.length_append, List.length_drop, List.length_take]
  omega

/-- A rotation holds the same items. -/
@[simp] theorem mem_rotated {α : Type} {items : List α} {position : Nat} {item : α} :
    item ∈ rotated items position ↔ item ∈ items := by
  rw [rotated, List.mem_append, or_comm, ← List.mem_append, List.take_append_drop]

/-- The position whose rotation is the least, the first one if there are several. -/
def leastRotation (names : List String) : Nat :=
  (List.range names.length).foldl
    (fun best candidate => if rotated names candidate < rotated names best then candidate else best) 0

/-- The list with its first item repeated at its end. -/
def closed {α : Type} : List α → List α
  | [] => []
  | first :: rest => first :: rest ++ [first]

@[simp] theorem closed_nil {α : Type} : closed ([] : List α) = [] := rfl

/-- The canonical form of a cycle: its least rotation, closed. -/
def canonicalCycle (body : List String) : List String := closed (rotated body (leastRotation body))

@[simp] theorem canonicalCycle_nil : canonicalCycle [] = [] := by
  simp [canonicalCycle, rotated]

end Gamebook.Analysis
