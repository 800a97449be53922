import Gamebook.Json.Value

/-!
# JSON text

A value is laid out over several lines, each nesting level two blanks further in, with one member or
item a line; an empty object or array stays on its line.  In a string a quote, a backslash and the
control characters below the blank are escaped, the common ones by a letter and the others by their
four hexadecimal digits, and every other character stands for itself.

Escaping keeps the text of different strings apart because no escape starts like a character that
stands for itself: a backslash is always the start of an escape.
-/

namespace Gamebook.Json

/-! ### Strings -/

/-- A character as it stands within a string. -/
def escaped (c : Char) : List Char :=
  if c = '"' then ['\\', '"']
  else if c = '\\' then ['\\', '\\']
  else if c = '\n' then ['\\', 'n']
  else if c = '\r' then ['\\', 'r']
  else if c = '\t' then ['\\', 't']
  else if c = '\x08' then ['\\', 'b']
  else if c = '\x0c' then ['\\', 'f']
  else if c.toNat < 0x20 then
    ['\\', 'u', '0', '0', Numeral.hexDigit (c.toNat / 16), Numeral.hexDigit (c.toNat % 16)]
  else [c]

/-- A string with its quotes. -/
def quoted (s : String) : List Char := '"' :: s.toList.flatMap escaped ++ ['"']

/-! ### Values -/

/-- A line break and the indentation of a nesting level. -/
def newline (level : Nat) : List Char := '\n' :: List.replicate (2 * level) ' '

mutual

/-- A value that stands at a nesting level. -/
def layout (level : Nat) : Value → List Char
  | .null => "null".toList
  | .boolean true => "true".toList
  | .boolean false => "false".toList
  | .integer value => (Numeral.intText value).toList
  | .decimal value => value.text.toList
  | .string text => quoted text
  | .array [] => "[]".toList
  | .array (item :: items) =>
    '[' :: newline (level + 1) ++ layout (level + 1) item ++ layoutItems level items
  | .object [] => "\x7b\x7d".toList
  | .object ((name, value) :: members) =>
    '{' :: newline (level + 1) ++ quoted name ++ ": ".toList ++ layout (level + 1) value
      ++ layoutMembers level members

/-- The items of an array after the first, and the bracket that closes it. -/
def layoutItems (level : Nat) : List Value → List Char
  | [] => newline level ++ [']']
  | item :: items =>
    ',' :: newline (level + 1) ++ layout (level + 1) item ++ layoutItems level items

/-- The members of an object after the first, and the brace that closes it. -/
def layoutMembers (level : Nat) : List (String × Value) → List Char
  | [] => newline level ++ ['}']
  | (name, value) :: members =>
    ',' :: newline (level + 1) ++ quoted name ++ ": ".toList ++ layout (level + 1) value
      ++ layoutMembers level members

end

/-- The text of a value. -/
def render (value : Value) : String := String.ofList (layout 0 value)

end Gamebook.Json
