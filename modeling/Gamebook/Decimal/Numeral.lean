/-!
# Numerals

A natural number is written as its decimal digits without leading zeros, and read back in any base
up to sixteen.  Reading takes every character to be a digit of the base and fails on anything else,
the empty text included, so that a numeral is never read as a part of a longer word.
-/

namespace Gamebook.Numeral

/-! ### Writing -/

/-- The decimal digit of a number below ten. -/
def digitChar (n : Nat) : Char := Char.ofNat ('0'.toNat + n)

/-- The lower-case hexadecimal digit of a number below sixteen. -/
def hexDigit (n : Nat) : Char :=
  if n < 10 then digitChar n else Char.ofNat ('a'.toNat + (n - 10))

/-- The decimal digits of a number, the most significant first. -/
def decimal (n : Nat) : List Char :=
  if n < 10 then [digitChar n] else decimal (n / 10) ++ [digitChar (n % 10)]
termination_by n

theorem decimal_of_lt {n : Nat} (h : n < 10) : decimal n = [digitChar n] := by
  rw [decimal, if_pos h]

theorem decimal_of_ge {n : Nat} (h : 10 ≤ n) :
    decimal n = decimal (n / 10) ++ [digitChar (n % 10)] := by
  rw [decimal, if_neg (Nat.not_lt.mpr h)]

theorem decimal_ne_nil (n : Nat) : decimal n ≠ [] := by
  rw [decimal]
  split <;> simp

/-- The decimal text of a number. -/
def text (n : Nat) : String := String.ofList (decimal n)

/-- The decimal text of an integer, with a minus sign in front of a negative one. -/
def intText : Int → String
  | .ofNat n => text n
  | .negSucc n => "-" ++ text (n + 1)

/-! ### Reading -/

/-- The value of a digit, letters of either case counting from ten. -/
def digitValue (c : Char) : Option Nat :=
  if '0' ≤ c ∧ c ≤ '9' then some (c.toNat - '0'.toNat)
  else if 'a' ≤ c ∧ c ≤ 'f' then some (c.toNat - 'a'.toNat + 10)
  else if 'A' ≤ c ∧ c ≤ 'F' then some (c.toNat - 'A'.toNat + 10)
  else none

/-- The character is a digit of the base. -/
def isDigit (base : Nat) (c : Char) : Bool :=
  match digitValue c with
  | some value => value < base
  | none => false

/-- The number that the digits continue from `acc`. -/
def readFrom (base acc : Nat) : List Char → Option Nat
  | [] => some acc
  | c :: rest =>
    match digitValue c with
    | some value => if value < base then readFrom base (acc * base + value) rest else none
    | none => none

/-- The number written by a non-empty run of digits of the base. -/
def read (base : Nat) : List Char → Option Nat
  | [] => none
  | digits => readFrom base 0 digits

@[simp] theorem read_nil (base : Nat) : read base [] = none := rfl

end Gamebook.Numeral
