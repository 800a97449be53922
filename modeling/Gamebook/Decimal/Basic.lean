import Gamebook.Decimal.Numeral

/-!
# Decimal fractions

A decimal is a sign, a coefficient and a power of ten.  It stands between the floating-point numbers
of the program and their texts: `Decimal.ofFloat?` picks the shortest decimal that reads back as a
given number, `Decimal.toFloat` reads a decimal, and `Decimal.text` lays one out.
-/

namespace Gamebook

/-- The number `± coefficient · 10 ^ exponent`.  The sign of zero is kept. -/
structure Decimal where
  /-- The number is below zero, or is the negative zero. -/
  negative : Bool
  /-- The digits, read as one natural number. -/
  coefficient : Nat
  /-- The power of ten that the coefficient is scaled by. -/
  exponent : Int
  deriving DecidableEq, Repr

namespace Decimal

/-- The decimal whose coefficient has no trailing zero; zero has the exponent zero. -/
def stripped (negative : Bool) (coefficient : Nat) (exponent : Int) : Decimal :=
  if h : coefficient = 0 then ⟨negative, 0, 0⟩
  else if coefficient % 10 = 0 then stripped negative (coefficient / 10) (exponent + 1)
  else ⟨negative, coefficient, exponent⟩
termination_by coefficient
decreasing_by omega

/-- The layout of a decimal.  The digits stand in full, with a point, while the point falls within
the first sixteen places or at most five places before the first digit; beyond that one digit stands
before the point and the power of ten after an `e`. -/
def digitsText (digits : List Char) (exponent : Int) : List Char :=
  let count : Int := digits.length
  let point : Int := count + exponent
  if 0 ≤ exponent ∧ point ≤ 16 then
    digits ++ List.replicate exponent.toNat '0' ++ ['.', '0']
  else if 0 < point ∧ point ≤ 16 then
    digits.take point.toNat ++ ['.'] ++ digits.drop point.toNat
  else if -5 < point ∧ point ≤ 0 then
    ['0', '.'] ++ List.replicate (-point).toNat '0' ++ digits
  else
    let power := 'e' :: (Numeral.intText (point - 1)).toList
    match digits with
    | [digit] => digit :: power
    | digit :: rest => digit :: '.' :: rest ++ power
    | [] => power

/-- The text of a decimal. -/
def text (d : Decimal) : String :=
  let shape := stripped d.negative d.coefficient d.exponent
  (if d.negative then "-" else "") ++
    if d.coefficient = 0 then "0.0"
    else String.ofList (digitsText (Numeral.decimal shape.coefficient) shape.exponent)

/-- The floating-point number nearest to a decimal.  Powers of ten so far out that the number can
only be zero or infinite are not computed. -/
def toFloat (d : Decimal) : Float :=
  let magnitude : Float :=
    let places : Int := (Numeral.decimal d.coefficient).length
    if d.coefficient = 0 ∨ places + d.exponent < -400 then 0.0
    else if places + d.exponent > 400 then 1.0 / 0.0
    else if d.exponent < 0 then Float.ofScientific d.coefficient true (-d.exponent).toNat
    else Float.ofScientific d.coefficient false d.exponent.toNat
  if d.negative then -magnitude else magnitude

end Decimal

end Gamebook
