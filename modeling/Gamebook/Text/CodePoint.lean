/-!
# Code points

A code point given by its number stands for a character unless it is a surrogate or beyond the last
one.
-/

namespace Gamebook.Text

/-- The character of a code point. -/
def charOfCode? (code : Nat) : Option Char :=
  if code.isValidChar then some (Char.ofNat code) else none

theorem charOfCode?_toNat (c : Char) : charOfCode? c.toNat = some c := by
  have valid : c.toNat.isValidChar := c.valid
  rw [charOfCode?, if_pos valid, Char.ofNat_toNat]

end Gamebook.Text
