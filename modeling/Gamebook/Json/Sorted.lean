import Gamebook.Json.Value

/-!
# Members in order

The same value with the members of every object in the order of their names.
-/

namespace Gamebook.Json.Value

mutual

/-- The value with the members of every object in it in the order of their names. -/
def sorted : Value → Value
  | .null => .null
  | .boolean value => .boolean value
  | .integer value => .integer value
  | .decimal value => .decimal value
  | .string text => .string text
  | .array items => .array (sortedItems items)
  | .object members => .object ((sortedMembers members).mergeSort fun a b => a.1 ≤ b.1)

/-- The items with the members of every object in them in order. -/
def sortedItems : List Value → List Value
  | [] => []
  | item :: items => sorted item :: sortedItems items

/-- The members with those of every object in them in order. -/
def sortedMembers : List (String × Value) → List (String × Value)
  | [] => []
  | (name, value) :: members => (name, sorted value) :: sortedMembers members

end

end Gamebook.Json.Value
