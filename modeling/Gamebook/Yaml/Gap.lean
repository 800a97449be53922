import Gamebook.Yaml.Cursor

/-!
# Gaps between words

A plain or quoted text is made of words and of the gaps between them.  A gap within a line stands for
itself.  A gap with line breaks is folded: the spaces around the breaks are dropped, a single break
reads as a space, and of several the first is dropped and the others stand for line feeds.  A line or
paragraph separator is not folded away.
-/

namespace Gamebook.Yaml

/-- The characters between two words of a text. -/
structure Gap where
  /-- The gap holds a line break, possibly one that was escaped. -/
  broken : Bool := false
  /-- The spaces before the first break. -/
  spaces : List Char := []
  /-- What the first break reads as; nothing if it was escaped. -/
  first : List Char := []
  /-- What the other breaks read as. -/
  others : List Char := []
  deriving Repr

namespace Gap

/-- What a gap stands for. -/
def text (gap : Gap) : List Char :=
  if !gap.broken then gap.spaces
  else if gap.first == ['\n'] then (if gap.others.isEmpty then [' '] else gap.others)
  else gap.first ++ gap.others

/-- Read on in a gap up to the next word.  No tab may stand left of the column `tabsFrom` once a line
has been broken. -/
def readFrom (tabsFrom : Nat) : (fuel : Nat) → Gap → Cursor → Except Error (Gap × Cursor)
  | 0, gap, at_ => .ok (gap, at_)
  | fuel + 1, gap, at_ =>
    match at_.rest with
    | [] => .ok (gap, at_)
    | c :: _ =>
      if isSpace c then
        if gap.broken then
          if at_.column < tabsFrom && c == '\t' then .error .tabInIndentation
          else readFrom tabsFrom fuel gap (at_.advance 1)
        else readFrom tabsFrom fuel { gap with spaces := gap.spaces ++ [c] } (at_.advance 1)
      else if isBreak c then
        let (text, next) := at_.readBreak
        if gap.broken then readFrom tabsFrom fuel { gap with others := gap.others ++ text } next
        else readFrom tabsFrom fuel { broken := true, first := text } next
      else .ok (gap, at_)

/-- Read a gap up to the next word.  `escaped` says that it starts after an escaped line break. -/
def read (tabsFrom : Nat) (escaped : Bool) (at_ : Cursor) : Except Error (Gap × Cursor) :=
  readFrom tabsFrom at_.rest.length { broken := escaped } at_

end Gap

end Gamebook.Yaml
