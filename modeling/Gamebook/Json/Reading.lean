import Gamebook.Json.Value

/-!
# Reading JSON values

A record is read from an object by the names of its fields, and other members do not matter; it may
also be given as an array of the fields in their order, and then there must be no more and no fewer.
One of several fixed words is given as a string, or as an object with the word as its only name.  A
count is an integer that fits 64 bits, and a decimal is none, whatever its value.
-/

namespace Gamebook.Json.Value

/-- The text of a string. -/
def text? : Value → Option String
  | .string text => some text
  | _ => none

/-- The texts of an array of strings. -/
def texts? : Value → Option (List String)
  | .array items => items.mapM text?
  | _ => none

/-- The items of an array. -/
def items? : Value → Option (List Value)
  | .array items => some items
  | _ => none

/-- The largest count. -/
def largestCount : Nat := UInt64.size - 1

/-- The number that an integer counts. -/
def count? : Value → Option Nat
  | .integer (.ofNat n) => if n ≤ largestCount then some n else none
  | _ => none

/-- The fixed word that a value stands for. -/
def word? : Value → Option String
  | .string word => some word
  | .object [(word, .null)] => some word
  | _ => none

/-- The fields of a record, in the order of their names. -/
def fields? (names : List String) : Value → Option (List Value)
  | .object members => names.mapM fun name => member? name members
  | .array items => if items.length = names.length then some items else none
  | _ => none

@[simp] theorem text?_string (text : String) : text? (.string text) = some text := rfl

@[simp] theorem items?_array (items : List Value) : items? (.array items) = some items := rfl

theorem count?_count {n : Nat} (h : n ≤ largestCount) : count? (count n) = some n := if_pos h

/-- **The array of a list of texts is read as that list.** -/
theorem texts?_strings (texts : List String) : texts? (strings texts) = some texts := by
  rw [strings, texts?]
  induction texts with
  | nil => rfl
  | cons text texts ih => simp [ih]

end Gamebook.Json.Value
