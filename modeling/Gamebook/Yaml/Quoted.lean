import Gamebook.Decimal.Numeral
import Gamebook.Text.CodePoint
import Gamebook.Yaml.Gap

/-!
# Quoted texts

Between single quotes every character stands for itself, and a quote is written twice.  Between double
quotes a backslash starts an escape: a letter for a control character, or a code point in hexadecimal
digits, or a line break, which is then left out.  Line breaks within quotes are folded like those of a
plain text.
-/

namespace Gamebook.Yaml

/-! ### Escapes -/

/-- The character that a letter after a backslash stands for. -/
def escapeLetter? : Char → Option Char
  | '0' => some '\x00'
  | 'a' => some '\x07'
  | 'b' => some '\x08'
  | 't' => some '\t'
  | '\t' => some '\t'
  | 'n' => some '\n'
  | 'v' => some '\x0b'
  | 'f' => some '\x0c'
  | 'r' => some '\r'
  | 'e' => some '\x1b'
  | ' ' => some ' '
  | '"' => some '"'
  | '/' => some '/'
  | '\\' => some '\\'
  | 'N' => some '\u0085'
  | '_' => some '\u00a0'
  | 'L' => some '\u2028'
  | 'P' => some '\u2029'
  | _ => none

/-- How many hexadecimal digits follow the letter. -/
def escapeDigits? : Char → Option Nat
  | 'x' => some 2
  | 'u' => some 4
  | 'U' => some 8
  | _ => none

/-- The character of the escape that starts behind a backslash, and the number of characters of the
escape. -/
def readEscape : List Char → Except Error (Char × Nat)
  | [] => .error .badEscape
  | letter :: rest =>
    match escapeLetter? letter, escapeDigits? letter with
    | some c, _ => .ok (c, 1)
    | none, some count =>
      let digits := rest.take count
      match (if digits.length = count then Numeral.read 16 digits else none).bind Text.charOfCode? with
      | some c => .ok (c, count + 1)
      | none => .error .badEscape
    | none, none => .error .badEscape

/-! ### Words -/

/-- A word of a quoted text. -/
structure QuotedWord where
  /-- What the word reads as. -/
  text : List Char
  /-- The place after the word. -/
  after : Cursor
  /-- The word ends with an escaped line break. -/
  escapedBreak : Bool
  deriving Repr

/-- Read a word of a quoted text on.  `read` are its characters so far, the latest first. -/
def quotedWordFrom (single : Bool) :
    (fuel : Nat) → (read : List Char) → Cursor → Except Error QuotedWord
  | 0, read, at_ => .ok ⟨read.reverse, at_, false⟩
  | fuel + 1, read, at_ =>
    match at_.rest with
    | [] => .ok ⟨read.reverse, at_, false⟩
    | c :: rest =>
      if isGap c then .ok ⟨read.reverse, at_, false⟩
      else if single then
        if c == '\'' then
          if rest.head? == some '\'' then
            quotedWordFrom single fuel ('\'' :: read) (at_.advance 2)
          else .ok ⟨read.reverse, at_, false⟩
        else quotedWordFrom single fuel (c :: read) (at_.advance 1)
      else if c == '"' then .ok ⟨read.reverse, at_, false⟩
      else if c == '\\' then
        if rest.head?.any isBreak then .ok ⟨read.reverse, (at_.advance 1).skipBreak, true⟩
        else do
          let (escaped, count) ← readEscape rest
          quotedWordFrom single fuel (escaped :: read) (at_.advance (count + 1))
      else quotedWordFrom single fuel (c :: read) (at_.advance 1)

/-! ### Texts -/

/-- Read a quoted text on, after the characters `text`, with the place after the closing quote. -/
def quotedFrom (single : Bool) :
    (fuel : Nat) → (text : List Char) → Cursor → Except Error (List Char × Cursor)
  | 0, _, _ => .error .unclosedQuote
  | fuel + 1, text, at_ =>
    if at_.isDocumentMark || at_.atEnd then .error .unclosedQuote
    else do
      let word ← quotedWordFrom single (at_.rest.length + 1) [] at_
      if word.after.isAt (if single then '\'' else '"') then
        .ok (text ++ word.text, word.after.advance 1)
      else
        let (gap, next) ← Gap.read 0 word.escapedBreak word.after
        quotedFrom single fuel (text ++ word.text ++ gap.text) next

/-- Read the quoted text whose opening quote stands here. -/
def readQuoted (single : Bool) (at_ : Cursor) : Except Error (List Char × Cursor) :=
  quotedFrom single (at_.rest.length + 1) [] (at_.advance 1)

end Gamebook.Yaml
