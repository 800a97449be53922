import Gamebook.Decimal.Basic
import Gamebook.Toml.Text
import Gamebook.Toml.Value

/-!
# Numbers in settings

An integer is decimal, with a sign if need be and no leading zero, or it is written in another base
with `0x`, `0o` or `0b` in front, and it fits sixty-four bits with its sign.  A number with a fraction
or an exponent is real; so are the words `inf` and `nan`.  A single underscore may stand between two
digits.  A number so large that only infinity is near it is none, unless it is negative.
-/

namespace Gamebook.Toml

/-! ### Digits -/

/-- Digits of a base behind a digit, with single underscores between them, the underscores left out. -/
def moreDigits (base : Nat) : Reader (List Char)
  | '_' :: c :: rest =>
    if Numeral.isDigit base c then
      (moreDigits base rest).map fun (digits, rest) => (c :: digits, rest)
    else none
  | '_' :: [] => none
  | c :: rest =>
    if Numeral.isDigit base c then
      (moreDigits base rest).map fun (digits, rest) => (c :: digits, rest)
    else some ([], c :: rest)
  | [] => some ([], [])

/-- At least one digit of a base. -/
def digits? (base : Nat) : Reader (List Char)
  | c :: rest =>
    if Numeral.isDigit base c then
      (moreDigits base rest).map fun (digits, rest) => (c :: digits, rest)
    else none
  | [] => none

/-- The whole part of a decimal number: a zero, or digits that start with another one. -/
def whole? : Reader (List Char)
  | '0' :: rest => some (['0'], rest)
  | s => digits? 10 s

/-- Whether a minus sign stands in front, and what follows a sign. -/
def sign : List Char → Bool × List Char
  | '-' :: rest => (true, rest)
  | '+' :: rest => (false, rest)
  | s => (false, s)

/-! ### Numbers -/

/-- The number of digits. -/
def valueOf (base : Nat) (digits : List Char) : Nat := (Numeral.read base digits).getD 0

/-- An integer that fits sixty-four bits with its sign. -/
def boundedInteger? (value : Int) : Option Value :=
  if -Int.pow 2 63 ≤ value ∧ value < Int.pow 2 63 then some (.integer value) else none

/-- An integer in a base, behind what names the base. -/
def based? (base : Nat) : Reader Value := fun s => do
  let (digits, rest) ← digits? base s
  return (← boundedInteger? (valueOf base digits), rest)

/-- A real number, unless it is too large. -/
def real? (number : Decimal) : Option Value :=
  let value := number.toFloat
  if value == 1.0 / 0.0 then none else some (.real value)

/-- The power of ten of an exponent behind its letter. -/
def exponent? : Reader Int := fun s => do
  let (negative, s) := sign s
  let (digits, rest) ← digits? 10 s
  return (if negative then -valueOf 10 digits else valueOf 10 digits, rest)

/-- The letter of an exponent. -/
def isExponentLetter (c : Char) : Bool := c == 'e' || c == 'E'

/-- An exponent, if there is one. -/
def optionalExponent? : Reader (Option Int)
  | c :: rest =>
    if isExponentLetter c then (exponent? rest).map fun (power, rest) => (some power, rest)
    else some (none, c :: rest)
  | [] => some (none, [])

/-- A decimal number of given sign and whole part, of which the fraction and the exponent follow. -/
def decimal? (negative : Bool) (whole : List Char) : Reader Value
  | '.' :: rest => do
    let (fraction, rest) ← digits? 10 rest
    let (power, rest) ← optionalExponent? rest
    let number : Decimal :=
      ⟨negative, valueOf 10 (whole ++ fraction), power.getD 0 - fraction.length⟩
    return (← real? number, rest)
  | s => do
    let (power?, rest) ← optionalExponent? s
    match power? with
    | some power => return (← real? ⟨negative, valueOf 10 whole, power⟩, rest)
    | none =>
      let magnitude : Int := valueOf 10 whole
      return (← boundedInteger? (if negative then -magnitude else magnitude), rest)

/-- A number that starts with its sign or its digits. -/
def signed? : Reader Value := fun s =>
  match sign s with
  | (negative, 'i' :: 'n' :: 'f' :: rest) =>
    some (.real (if negative then -(1.0 / 0.0) else 1.0 / 0.0), rest)
  | (_, 'n' :: 'a' :: 'n' :: rest) => some (.real (0.0 / 0.0), rest)
  | (negative, s) => do
    let (whole, rest) ← whole? s
    decimal? negative whole rest

/-- A number. -/
def number? : Reader Value
  | '0' :: 'x' :: rest => based? 16 rest
  | '0' :: 'o' :: rest => based? 8 rest
  | '0' :: 'b' :: rest => based? 2 rest
  | s => signed? s

end Gamebook.Toml
