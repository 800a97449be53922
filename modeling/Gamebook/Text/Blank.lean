import Gamebook.Text.CharRange

/-!
# Blank characters, trimming, lines

A character is blank when it has the property `White_Space`.  There are twenty-five of them, and
they are more than the ASCII blanks: a no-break space or an ideographic space at the edge of a
prose body is trimmed as well.  Trimming drops blanks from both ends and nothing else; a line is
what stands before a line feed, without one carriage return directly in front of it.

The list forms carry the rules, and the forms on `String` are read through them.
-/

namespace Gamebook.Text

/-! ### Blanks -/

/-- The characters with the property `White_Space`. -/
def blankRanges : List (Nat × Nat) :=
  [(0x09, 0x0D), (0x20, 0x20), (0x85, 0x85), (0xA0, 0xA0), (0x1680, 0x1680), (0x2000, 0x200A),
   (0x2028, 0x2029), (0x202F, 0x202F), (0x205F, 0x205F), (0x3000, 0x3000)]

/-- A blank character. -/
def isBlank (c : Char) : Bool := inRanges blankRanges c

/-- Every character of the text is blank; the empty text is such a text. -/
def allBlank (s : List Char) : Bool := s.all isBlank

/-! ### Trimming -/

/-- The text without the blanks at its start. -/
def trimStart (s : List Char) : List Char := s.dropWhile isBlank

/-- The text without the blanks at its end. -/
def trimEnd (s : List Char) : List Char := (s.reverse.dropWhile isBlank).reverse

/-- The text without the blanks at its two ends. -/
def trimmed (s : List Char) : List Char := trimEnd (trimStart s)

@[simp] theorem trimStart_nil : trimStart [] = [] := rfl

@[simp] theorem trimEnd_nil : trimEnd [] = [] := rfl

@[simp] theorem trimmed_nil : trimmed [] = [] := rfl

/-- A text that starts with a character that is not blank is trimmed at its start already. -/
theorem trimStart_cons_of_not_blank {c : Char} (h : isBlank c = false) (s : List Char) :
    trimStart (c :: s) = c :: s := by
  simp [trimStart, h]

/-- The text without the blanks at its two ends. -/
def trim (s : String) : String := String.ofList (trimmed s.toList)

/-- The text holds nothing but blanks. -/
def isBlankText (s : String) : Bool := allBlank s.toList

/-! ### Lines -/

/-- The lines of a text.  A line feed ends a line, together with a carriage return directly in front
of it; text after the last line feed is a line of its own, and an empty rest is none. -/
def lines : List Char → List (List Char)
  | [] => []
  | '\n' :: rest => [] :: lines rest
  | '\r' :: '\n' :: rest => [] :: lines rest
  | c :: rest =>
    match lines rest with
    | [] => [[c]]
    | line :: more => (c :: line) :: more

@[simp] theorem lines_nil : lines [] = [] := rfl

@[simp] theorem lines_lineFeed (rest : List Char) : lines ('\n' :: rest) = [] :: lines rest := by
  simp only [lines]

/-- The lines of a text, each trimmed, without those that hold only blanks. -/
def proseLines (s : String) : List (List Char) :=
  ((lines s.toList).map trimmed).filter fun line => !line.isEmpty

end Gamebook.Text
