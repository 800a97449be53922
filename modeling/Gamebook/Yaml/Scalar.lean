import Gamebook.Yaml.TagName
import Gamebook.Yaml.Value

/-!
# What a plain text stands for

A text without quotes stands for null, a boolean or a number if it is spelled like one, and for itself
otherwise.  Integers may be written in base sixteen, eight or two behind `0x`, `0o` or `0b`; a run of
several digits that starts with zero is no number.  An integer that needs more than 64 bits is refused
as long as 128 bits suffice; beyond that it is read as a floating-point number.
-/

namespace Gamebook.Yaml.Scalar

/-! ### Spellings -/

/-- The spellings of null. -/
def isNull (text : String) : Bool := ["null", "Null", "NULL", "~"].contains text

/-- The spellings of the booleans. -/
def readBoolean? (text : String) : Option Bool :=
  if ["true", "True", "TRUE"].contains text then some true
  else if ["false", "False", "FALSE"].contains text then some false
  else none

/-- A text without its sign, and whether the sign is a minus. -/
def unsigned : List Char → Bool × List Char
  | '-' :: rest => (true, rest)
  | '+' :: rest => (false, rest)
  | text => (false, text)

/-- Several digits of which the first is zero. -/
def isPadded (text : List Char) : Bool :=
  match (unsigned text).2 with
  | '0' :: c :: rest => (c :: rest).all Char.isDigit
  | _ => false

/-! ### Integers -/

/-- The natural number that a text without a sign spells. -/
def readNatural? (text : List Char) : Option Nat :=
  match text with
  | '0' :: 'x' :: digits => Numeral.read 16 digits
  | '0' :: 'o' :: digits => Numeral.read 8 digits
  | '0' :: 'b' :: digits => Numeral.read 2 digits
  | digits => if isPadded digits then none else Numeral.read 10 digits

/-- The integer that a text spells. -/
def readInteger? (text : List Char) : Option Int :=
  let (negative, digits) := unsigned text
  (readNatural? digits).map fun n => if negative then -n else n

/-- The integers that are read as such: those of a signed or unsigned 64-bit word. -/
def fitsWord (n : Int) : Bool := -Int.pow 2 63 ≤ n && n < Int.pow 2 64

/-- The integers of a signed or unsigned 128-bit word. -/
def fitsDoubleWord (n : Int) : Bool := -Int.pow 2 127 ≤ n && n < Int.pow 2 128

/-! ### Floating-point numbers -/

/-- The power of ten behind the mantissa of a number, zero if there is none. -/
def readExponent? : List Char → Option Int
  | [] => some 0
  | e :: rest =>
    if e == 'e' || e == 'E' then
      let (negative, digits) := unsigned rest
      (Numeral.read 10 digits).map fun n => if negative then -n else n
    else none

/-- The decimal that a text spells: digits with a point among, before or after them, and a power. -/
def readDecimal? (text : List Char) : Option Decimal :=
  let (negative, text) := unsigned text
  let whole := text.takeWhile Char.isDigit
  let afterWhole := text.dropWhile Char.isDigit
  let (fraction, rest) := match afterWhole with
    | '.' :: more => (more.takeWhile Char.isDigit, more.dropWhile Char.isDigit)
    | more => ([], more)
  do
    let coefficient ← Numeral.read 10 (whole ++ fraction)
    let exponent ← readExponent? rest
    some ⟨negative, coefficient, exponent - fraction.length⟩

/-- The floating-point number that a text spells. -/
def readFloat? (text : String) : Option Float :=
  if [".inf", ".Inf", ".INF", "+.inf", "+.Inf", "+.INF"].contains text then some (1.0 / 0.0)
  else if ["-.inf", "-.Inf", "-.INF"].contains text then some (-1.0 / 0.0)
  else if [".nan", ".NaN", ".NAN"].contains text then some (0.0 / 0.0)
  else
    match readDecimal? text.toList with
    | some decimal => if decimal.toFloat.isFinite then some decimal.toFloat else none
    | none => none

/-! ### Texts -/

/-- The integer that a text spells, as a number; none if the text spells no integer of a length that
is looked at. -/
def readNumber? (text : String) : Option (Except Error Number) :=
  match readInteger? text.toList with
  | some n =>
    if fitsWord n then some (.ok (.integer n))
    else if fitsDoubleWord n then some (.error .badScalar)
    else none
  | none => none

/-- What a plain text stands for. -/
def resolve (text : String) : Except Error Value :=
  if text.isEmpty || isNull text then .ok .null
  else
    match readBoolean? text with
    | some value => .ok (.boolean value)
    | none =>
      match readNumber? text with
      | some number => number.map .number
      | none =>
        match if isPadded text.toList then none else readFloat? text with
        | some value => .ok (.number (.real value))
        | none => .ok (.string text)

/-- The tags that ask for a type. -/
def coreTag (name : String) : TagName := .ofChars ("tag:yaml.org,2002:" ++ name).toList

/-- What a text with a tag stands for that is none of the program's own tags. -/
def resolveTagged (tag : TagName) (text : String) : Except Error Value :=
  if tag = coreTag "bool" then
    match readBoolean? text with
    | some value => .ok (.boolean value)
    | none => .error .badScalar
  else if tag = coreTag "int" then
    match readNumber? text with
    | some (.ok number) => .ok (.number number)
    | _ => .error .badScalar
  else if tag = coreTag "float" then
    match readFloat? text with
    | some value => .ok (.number (.real value))
    | none => .error .badScalar
  else if tag = coreTag "null" then
    if isNull text then .ok .null else .error .badScalar
  else .ok (.string text)

end Gamebook.Yaml.Scalar
