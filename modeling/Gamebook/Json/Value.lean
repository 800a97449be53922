import Gamebook.Decimal.Basic

/-!
# JSON values

The values that reports and story documents are written as and reports are read from.  An object
keeps its members in the order given.  Integers and decimals are kept apart, since a count is an
integer and `1.0` is none.
-/

namespace Gamebook.Json

/-- A JSON value. -/
inductive Value where
  | null
  | boolean (value : Bool)
  | integer (value : Int)
  | decimal (value : Decimal)
  | string (text : String)
  | array (items : List Value)
  | object (members : List (String × Value))
  deriving BEq, Repr, Inhabited

namespace Value

/-- The array of a list of texts. -/
def strings (texts : List String) : Value := .array (texts.map .string)

/-- The object of the text members of `pairs`. -/
def stringObject (pairs : List (String × String)) : Value :=
  .object (pairs.map fun pair => (pair.1, .string pair.2))

/-- The value of a count. -/
def count (n : Nat) : Value := .integer n

/-- The member of that name, the last one if the name occurs several times. -/
def member? (name : String) (members : List (String × Value)) : Option Value :=
  (members.reverse.find? fun member => member.1 == name).map (·.2)

@[simp] theorem member?_nil (name : String) : member? name [] = none := rfl

end Value

end Gamebook.Json
