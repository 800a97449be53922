import Gamebook.Yaml.Error

/-!
# Places in a text

Reading YAML depends on where in the text one is: on the column, since nesting is told by
indentation, on the line, since a key has to stand on one line, and on the distance from an earlier
place, since a key must not be long.  A cursor is the text still to read with these three counts.  The
column counts characters; the distance counts the octets of the characters in UTF-8.

A line break is one character or a carriage return with a line feed.  It reads as a line feed, except
that the line and paragraph separators stand for themselves.
-/

namespace Gamebook.Yaml

/-! ### Kinds of characters -/

/-- A character that ends a line. -/
def isBreak (c : Char) : Bool :=
  c == '\r' || c == '\n' || c == '\u0085' || c == '\u2028' || c == '\u2029'

/-- A space or a tab. -/
def isSpace (c : Char) : Bool := c == ' ' || c == '\t'

/-- A character that separates words: a space, a tab or a line break. -/
def isGap (c : Char) : Bool := isSpace c || isBreak c

/-- A character of the name of an anchor, a directive or a tag handle. -/
def isNameChar (c : Char) : Bool := c.isAlphanum || c == '_' || c == '-'

/-- A character that may stand in a text at all. -/
def isReadable (c : Char) : Bool :=
  let n := c.toNat
  n == 0x9 || n == 0xA || n == 0xD || (0x20 ≤ n && n ≤ 0x7E) || n == 0x85
    || (0xA0 ≤ n && n ≤ 0xD7FF) || (0xE000 ≤ n && n ≤ 0xFFFD) || 0x10000 ≤ n

/-- The number of octets of characters. -/
def octetCount (s : List Char) : Nat := s.foldr (fun c count => c.utf8Size + count) 0

@[simp] theorem octetCount_nil : octetCount [] = 0 := rfl

@[simp] theorem octetCount_append (s t : List Char) :
    octetCount (s ++ t) = octetCount s + octetCount t := by
  induction s with
  | nil => rw [octetCount_nil, List.nil_append, Nat.zero_add]
  | cons c s ih =>
    show c.utf8Size + octetCount (s ++ t) = c.utf8Size + octetCount s + octetCount t
    rw [ih, Nat.add_assoc]

/-! ### Cursors -/

/-- A place in a text. -/
structure Cursor where
  /-- The characters from this place on. -/
  rest : List Char
  /-- The number of octets before this place. -/
  offset : Nat := 0
  /-- The number of line breaks before this place. -/
  line : Nat := 0
  /-- The number of characters before this place on its line. -/
  column : Nat := 0
  deriving Repr

namespace Cursor

/-- The character that many places on. -/
def peek? (at_ : Cursor) (count : Nat) : Option Char := at_.rest[count]?

/-- The character here is `c`. -/
def isAt (at_ : Cursor) (c : Char) : Bool := at_.rest.head? == some c

/-- The text ends here. -/
def atEnd (at_ : Cursor) : Bool := at_.rest.isEmpty

/-- That many places on there is a space, a tab or a line break, or the text ends. -/
def gapOrEnd (at_ : Cursor) (count : Nat) : Bool := (at_.peek? count).all isGap

/-- Here there is a line break, or the text ends. -/
def breakOrEnd (at_ : Cursor) : Bool := at_.rest.head?.all isBreak

/-- Past that many characters, none of which is a line break. -/
def advance (at_ : Cursor) (count : Nat) : Cursor :=
  { at_ with
    rest := at_.rest.drop count
    offset := at_.offset + octetCount (at_.rest.take count)
    column := at_.column + count }

@[simp] theorem advance_zero (at_ : Cursor) : at_.advance 0 = at_ := by
  simp only [advance, List.drop_zero, List.take_zero, octetCount_nil, Nat.add_zero]

/-- **Two advances are one.** -/
theorem advance_advance (at_ : Cursor) (m n : Nat) :
    (at_.advance m).advance n = at_.advance (m + n) := by
  simp only [advance, List.drop_drop, List.take_add, octetCount_append, Nat.add_assoc]

/-- Past the characters of this line that meet a condition. -/
def advanceWhile (at_ : Cursor) (p : Char → Bool) : Cursor :=
  at_.advance (at_.rest.takeWhile p).length

/-- Past a line break, with what it reads as; nothing is read where there is none. -/
def readBreak (at_ : Cursor) : List Char × Cursor :=
  match at_.rest with
  | '\r' :: '\n' :: rest => (['\n'], ⟨rest, at_.offset + 2, at_.line + 1, 0⟩)
  | c :: rest =>
    let after : Cursor := ⟨rest, at_.offset + c.utf8Size, at_.line + 1, 0⟩
    if c == '\u2028' || c == '\u2029' then ([c], after)
    else if isBreak c then (['\n'], after)
    else ([], at_)
  | [] => ([], at_)

/-- Past a line break. -/
def skipBreak (at_ : Cursor) : Cursor := at_.readBreak.2

/-- Past spaces, tabs and a comment, up to the end of the line. -/
def skipToBreak (at_ : Cursor) : Cursor :=
  let at_ := at_.advanceWhile isSpace
  if at_.isAt '#' then at_.advanceWhile fun c => !isBreak c else at_

/-- Three times the character `c` stand at the start of a line, with a gap after them. -/
def isMark (at_ : Cursor) (c : Char) : Bool :=
  at_.column == 0 && at_.rest.take 3 == [c, c, c] && at_.gapOrEnd 3

/-- A mark that starts or ends a document stands here. -/
def isDocumentMark (at_ : Cursor) : Bool := at_.isMark '-' || at_.isMark '.'

end Cursor

end Gamebook.Yaml
