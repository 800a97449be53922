import Gamebook.Decimal.Shortest
import Gamebook.Yaml.Error

/-!
# Values

What a YAML text says: a tree of null, booleans, numbers, texts, lists and mappings, some of them with
a tag of their own.  A mapping keeps its entries in the order in which they are written.

Keys of a mapping are compared by value: `0x10` and `16` are the same key, `1` and `1.0` are not, the
order of the entries of a key that is a mapping does not matter, and a number that is not a number
equals itself.
-/

namespace Gamebook.Yaml

/-- A number: an integer of at most 64 bits, or a floating-point number. -/
inductive Number where
  | integer (value : Int)
  | real (value : Float)
  deriving Repr

namespace Number

/-- The text of a number. -/
def text : Number → String
  | .integer value => Numeral.intText value
  | .real value =>
    match Decimal.ofFloat? value with
    | some decimal => decimal.text
    | none => if value.isNaN then ".nan" else if value < 0.0 then "-.inf" else ".inf"

/-- Two numbers are the same key. -/
def same : Number → Number → Bool
  | .integer a, .integer b => a == b
  | .real a, .real b => a == b || (a.isNaN && b.isNaN)
  | _, _ => false

end Number

/-- The value of a text. -/
inductive Value where
  | null
  | boolean (value : Bool)
  | number (value : Number)
  | string (text : String)
  | sequence (items : List Value)
  | mapping (entries : List (Value × Value))
  | tagged (tag : String) (value : Value)
  deriving Repr, Inhabited

namespace Value

/-- A tag without the exclamation mark that it may still start with. -/
def bareTag (tag : String) : List Char :=
  match tag.toList with
  | '!' :: c :: rest => c :: rest
  | text => text

mutual

/-- Two values are the same key. -/
def same : Value → Value → Bool
  | .null, .null => true
  | .boolean a, .boolean b => a == b
  | .number a, .number b => a.same b
  | .string a, .string b => a == b
  | .sequence a, .sequence b => sameItems a b
  | .mapping a, .mapping b => a.length == b.length && sameEntries a b
  | .tagged s a, .tagged t b => bareTag s == bareTag t && same a b
  | _, _ => false

/-- Two lists have the same items in the same order. -/
def sameItems : List Value → List Value → Bool
  | [], [] => true
  | a :: as, b :: bs => same a b && sameItems as bs
  | _, _ => false

/-- Every entry of the first mapping is an entry of the second. -/
def sameEntries : List (Value × Value) → List (Value × Value) → Bool
  | [], _ => true
  | (key, value) :: rest, other =>
    other.any (fun entry => same key entry.1 && same value entry.2) && sameEntries rest other

end

/-- The value under a key that is a text. -/
def get? (key : String) : List (Value × Value) → Option Value
  | [] => none
  | (.string text, value) :: rest => if text = key then some value else get? key rest
  | _ :: rest => get? key rest

/-- Null, also behind tags. -/
def isNull : Value → Bool
  | .null => true
  | .tagged _ value => value.isNull
  | _ => false

end Value

end Gamebook.Yaml
