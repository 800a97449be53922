import Gamebook.Yaml.Gap

/-!
# Plain texts

A text without quotes runs until something that cannot belong to it: a colon before a gap, a comment,
the mark of a document, within brackets also a bracket or a comma, and outside of them a line that is
not indented further than the collection around it.
-/

namespace Gamebook.Yaml

/-- A text that has been read, and the place after it. -/
structure PlainText where
  /-- What the text reads as. -/
  text : List Char
  /-- The place after the text and the gap behind it. -/
  after : Cursor
  /-- The gap behind the text holds a line break. -/
  endedLine : Bool
  deriving Repr

/-- A bracket or a comma. -/
def isFlowIndicator (c : Char) : Bool := c == ',' || c == '[' || c == ']' || c == '{' || c == '}'

/-- The characters of one word of a plain text.  `inFlow` says that the text stands in brackets. -/
def plainWord (inFlow : Bool) : List Char → Except Error (List Char)
  | [] => .ok []
  | c :: rest =>
    if isGap c then .ok []
    else if inFlow && c == ':' && rest.head?.any (fun d => isFlowIndicator d || d == '?') then
      .error .unexpectedColon
    else if (c == ':' && rest.head?.all isGap) || (inFlow && isFlowIndicator c) then .ok []
    else (plainWord inFlow rest).map (c :: ·)

/-- Read a plain text on, after the characters `text` and the gap `gap`. -/
def plainFrom (inFlow : Bool) (indent : Nat) :
    (fuel : Nat) → (text : List Char) → Gap → Cursor → Except Error PlainText
  | 0, text, gap, at_ => .ok ⟨text, at_, gap.broken⟩
  | fuel + 1, text, gap, at_ =>
    if at_.isDocumentMark || at_.isAt '#' then .ok ⟨text, at_, gap.broken⟩
    else do
      let word ← plainWord inFlow at_.rest
      let afterWord := at_.advance word.length
      if word.isEmpty then .ok ⟨text, at_, gap.broken⟩
      else
        let text := text ++ gap.text ++ word
        if !afterWord.rest.head?.any isGap then .ok ⟨text, afterWord, false⟩
        else
          let (next, afterGap) ← Gap.read indent false afterWord
          if !inFlow && afterGap.column < indent then .ok ⟨text, afterGap, next.broken⟩
          else plainFrom inFlow indent fuel text next afterGap

/-- Read the plain text that starts here.  Its further lines are indented by at least `indent`. -/
def readPlain (inFlow : Bool) (indent : Nat) (at_ : Cursor) : Except Error PlainText :=
  plainFrom inFlow indent (at_.rest.length + 1) [] {} at_

end Gamebook.Yaml
