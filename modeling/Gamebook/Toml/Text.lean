import Gamebook.Decimal.Numeral
import Gamebook.Text.CodePoint

/-!
# Texts and gaps

The smallest parts of a settings file: blanks, comments and line breaks, and quoted texts.  Between
double quotes a backslash starts an escape, and between single quotes every character stands for
itself.  Three quotes start a text over several lines; a line break right behind them does not count,
and every line break in the text is a line feed, however the file breaks its lines.

Nothing but the tab may stand for itself among the control characters.
-/

namespace Gamebook.Toml

/-- A way to read something at the start of a text: what was read, and the text that follows. -/
abbrev Reader (α : Type) : Type := List Char → Option (α × List Char)

/-! ### Gaps -/

/-- A blank within a line. -/
def isGap (c : Char) : Bool := c == ' ' || c == '\t'

/-- The text without the blanks it starts with. -/
def skipGap (s : List Char) : List Char := s.dropWhile isGap

/-- A character that may stand for itself in a comment or a text. -/
def isPlain (c : Char) : Bool := c == '\t' || (0x20 ≤ c.toNat && c.toNat != 0x7F)

/-- What follows the line break that the text starts with. -/
def afterBreak? : List Char → Option (List Char)
  | '\n' :: rest => some rest
  | '\r' :: '\n' :: rest => some rest
  | _ => none

/-- What follows the end of a line at which only blanks and a comment may be left. -/
def afterLine? (s : List Char) : Option (List Char) :=
  let rest := match skipGap s with
    | '#' :: rest => rest.dropWhile isPlain
    | rest => rest
  if rest.isEmpty then some [] else afterBreak? rest

/-- The text without the blanks, line breaks and comments it starts with. -/
def skipLines : (inComment : Bool) → List Char → List Char
  | _, [] => []
  | _, '\n' :: rest => skipLines false rest
  | _, '\r' :: '\n' :: rest => skipLines false rest
  | true, c :: rest => if isPlain c then skipLines true rest else c :: rest
  | false, c :: rest =>
    if isGap c then skipLines false rest
    else if c = '#' then skipLines true rest
    else c :: rest

/-! ### Escapes -/

/-- The character of a code point in so many hexadecimal digits. -/
def codePoint? (count : Nat) : Reader Char := fun s =>
  let digits := s.take count
  if digits.length = count then
    ((Numeral.read 16 digits).bind Text.charOfCode?).map fun c => (c, s.drop count)
  else none

/-- The character of the escape behind a backslash. -/
def escape? : Reader Char
  | 'b' :: rest => some ('\x08', rest)
  | 't' :: rest => some ('\t', rest)
  | 'n' :: rest => some ('\n', rest)
  | 'f' :: rest => some ('\x0c', rest)
  | 'r' :: rest => some ('\r', rest)
  | '"' :: rest => some ('"', rest)
  | '\\' :: rest => some ('\\', rest)
  | 'u' :: rest => codePoint? 4 rest
  | 'U' :: rest => codePoint? 8 rest
  | _ => none

/-! ### Texts on one line -/

/-- The rest of a text between single quotes. -/
def literal? : Reader (List Char)
  | '\'' :: rest => some ([], rest)
  | c :: rest =>
    if isPlain c then (literal? rest).map fun (text, rest) => (c :: text, rest) else none
  | [] => none

/-- The rest of a text between double quotes. -/
def quoted? : (fuel : Nat) → Reader (List Char)
  | 0, _ => none
  | _, [] => none
  | _, '"' :: rest => some ([], rest)
  | fuel + 1, '\\' :: rest => do
    let (c, rest) ← escape? rest
    let (text, rest) ← quoted? fuel rest
    return (c :: text, rest)
  | fuel + 1, c :: rest =>
    if isPlain c then (quoted? fuel rest).map fun (text, rest) => (c :: text, rest) else none

/-! ### Texts over several lines -/

/-- What follows the three quotes that end a text, with up to two quotes that belong to it. -/
def closing? (quote : Char) : Reader (List Char)
  | a :: b :: c :: rest =>
    if a = quote ∧ b = quote ∧ c = quote then
      match rest with
      | d :: e :: rest' =>
        if d = quote ∧ e = quote then some ([quote, quote], rest')
        else if d = quote then some ([quote], e :: rest')
        else some ([], rest)
      | [d] => if d = quote then some ([quote], []) else some ([], rest)
      | [] => some ([], [])
    else none
  | _ => none

/-- What follows an escaped line break: the blanks and line breaks behind it are left out too. -/
def afterFold? (s : List Char) : Option (List Char) :=
  (afterBreak? (skipGap s)).map foldRest
where
  /-- The text without the blanks and line breaks it starts with. -/
  foldRest : List Char → List Char
    | '\n' :: rest => foldRest rest
    | '\r' :: '\n' :: rest => foldRest rest
    | c :: rest => if isGap c then foldRest rest else c :: rest
    | [] => []

/-- The rest of a text over several lines, whose escapes count unless it is literal. -/
def lines? (quote : Char) (isLiteral : Bool) : (fuel : Nat) → Reader (List Char)
  | 0, _ => none
  | _, [] => none
  | fuel + 1, c :: rest =>
    match closing? quote (c :: rest) with
    | some ended => some ended
    | none =>
      match afterBreak? (c :: rest) with
      | some rest => (lines? quote isLiteral fuel rest).map fun (text, rest) => ('\n' :: text, rest)
      | none =>
        if c = '\\' ∧ !isLiteral then
          match afterFold? rest with
          | some rest => lines? quote isLiteral fuel rest
          | none => do
            let (c, rest) ← escape? rest
            let (text, rest) ← lines? quote isLiteral fuel rest
            return (c :: text, rest)
        else if isPlain c then
          (lines? quote isLiteral fuel rest).map fun (text, rest) => (c :: text, rest)
        else none

/-! ### Quoted texts -/

/-- A text over several lines behind the quotes that start it. -/
def afterOpening? (quote : Char) (isLiteral : Bool) : Reader String := fun s =>
  let s := (afterBreak? s).getD s
  (lines? quote isLiteral (s.length + 1) s).map fun (text, rest) => (String.ofList text, rest)

/-- A text on one line, in quotes. -/
def lineText? : Reader String
  | '"' :: rest => (quoted? (rest.length + 1) rest).map fun (text, rest) => (String.ofList text, rest)
  | '\'' :: rest => (literal? rest).map fun (text, rest) => (String.ofList text, rest)
  | _ => none

/-- A text in quotes. -/
def text? : Reader String
  | '"' :: '"' :: '"' :: rest => afterOpening? '"' false rest
  | '\'' :: '\'' :: '\'' :: rest => afterOpening? '\'' true rest
  | s => lineText? s

end Gamebook.Toml
