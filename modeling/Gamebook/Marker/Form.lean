import Gamebook.Decimal.Numeral
import Gamebook.Text.Blank
import Gamebook.Text.DecimalDigit
import Gamebook.Text.Lead

/-!
# Forms of values

Besides words there are values with a form of their own: a duration in milliseconds, a colour in
hexadecimal digits, a name, a title.  A form is given by the function that finds the value at the start
of a text, and it finds as much as it can: a duration takes every digit, and a colour six of them where
six stand there.  A text is a value of the form when the value found in it is all of it.
-/

namespace Gamebook.Marker

/-- A way to find a value at the start of a text. -/
abbrev Form : Type := List Char → Option (List Char)

/-! ### Values with a lead -/

/-- The form of a value of another form with a lead in front, which counts as part of the value. -/
def introduced (lead : List Char) (form : Form) : Form := fun s =>
  (Text.following? lead s).bind fun rest => (form rest).map (lead ++ ·)

/-! ### Runs -/

/-- The form of the non-empty runs of characters of a class. -/
def run? (inClass : Char → Bool) : Form := fun s =>
  match s.takeWhile inClass with
  | [] => none
  | c :: value => some (c :: value)

/-! ### Durations -/

/-- The unit of a duration, with the blank that may stand in front of it. -/
def unit? : Form
  | 'm' :: 's' :: _ => some ['m', 's']
  | c :: 'm' :: 's' :: _ => if Text.isBlank c then some [c, 'm', 's'] else none
  | _ => none

/-- A duration: decimal digits, then at most one blank, then the unit. -/
def duration? : Form := fun s =>
  (run? Text.isDecimalDigit s).bind fun digits =>
    (unit? (s.dropWhile Text.isDecimalDigit)).map (digits ++ ·)

/-! ### Colours -/

/-- The first `n` characters, if there are as many and they are hexadecimal digits. -/
def hexDigits? (n : Nat) : Form := fun s =>
  if (s.take n).length = n ∧ (s.take n).all (Numeral.isDigit 16) then some (s.take n) else none

/-- A colour in digits: a hash sign and six hexadecimal digits, or else three. -/
def hexColour? : Form
  | '#' :: s => ((hexDigits? 6 s).or (hexDigits? 3 s)).map ('#' :: ·)
  | _ => none

/-! ### Values of a form -/

/-- The text is a value of the form. -/
def Form.accepts (form : Form) (value : List Char) : Bool := form value == some value

end Gamebook.Marker
