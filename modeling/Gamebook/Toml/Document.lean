import Gamebook.Toml.Number

/-!
# Settings files

A settings file is read line by line.  A line in brackets is the header of a table, and a line with an
equals sign puts a value under a key into the table of the last header; keys may be dotted.  Lists may
go over several lines, tables in braces may not.  Values are nested less than eighty deep, and a dotted
key has less than eighty keys.

The reader knows no lists of tables, since no setting is one: a file with one is malformed like any
other file that is not read to its end.
-/

namespace Gamebook.Toml

/-! ### Keys -/

/-- A character of a key without quotes. -/
def isKeyChar (c : Char) : Bool := c.isAlphanum || c == '_' || c == '-'

/-- A single key. -/
def simpleKey? : Reader String := fun s =>
  match s with
  | '"' :: _ => lineText? s
  | '\'' :: _ => lineText? s
  | _ =>
    match s.takeWhile isKeyChar with
    | [] => none
    | key => some (String.ofList key, s.dropWhile isKeyChar)

/-- How deep values may be nested, and how many keys a dotted key may have. -/
def maxNesting : Nat := 79

/-- The keys of a dotted key, at most so many, with the blanks around them. -/
def keys? : (room : Nat) → Reader (List String)
  | 0, _ => none
  | room + 1, s => do
    let (first, rest) ← simpleKey? (skipGap s)
    match skipGap rest with
    | '.' :: rest => (keys? room rest).map fun (others, rest) => (first :: others, rest)
    | rest => return ([first], rest)

/-- A dotted key and the equals sign behind it. -/
def keyEquals? : Reader (List String) := fun s => do
  match (← keys? maxNesting s) with
  | (keys, '=' :: rest) => return (keys, skipGap rest)
  | _ => none

/-- The entries with a value under a dotted key. -/
def Entries.defineKeys (keys : List String) (value : Value) (entries : Entries) : Option Entries :=
  keys.getLast?.bind fun last => entries.define last value keys.dropLast

/-! ### Values -/

mutual

/-- A value, in which lists and tables in braces may be nested `room` deep. -/
def value? : (fuel room : Nat) → Reader Value
  | 0, _, _ => none
  | fuel + 1, room, s =>
    match s, room with
    | '"' :: _, _ => (text? s).map fun (text, rest) => (.text text, rest)
    | '\'' :: _, _ => (text? s).map fun (text, rest) => (.text text, rest)
    | '[' :: _, 0 => none
    | '[' :: rest, room + 1 =>
      (items? fuel room rest).map fun (items, rest) => (.list items, rest)
    | '{' :: _, 0 => none
    | '{' :: rest, room + 1 =>
      match skipGap rest with
      | '}' :: rest => some (.table .braces [], rest)
      | rest =>
        (members? fuel room [] rest).map fun (entries, rest) => (.table .braces entries, rest)
    | 't' :: 'r' :: 'u' :: 'e' :: rest, _ => some (.boolean true, rest)
    | 'f' :: 'a' :: 'l' :: 's' :: 'e' :: rest, _ => some (.boolean false, rest)
    | _, _ =>
      match moment? s with
      | some (moment, rest) => some (.moment moment, rest)
      | none => number? s

/-- The items of a list up to its closing bracket. -/
def items? : (fuel room : Nat) → Reader (List Value)
  | 0, _, _ => none
  | fuel + 1, room, s =>
    match skipLines false s with
    | ']' :: rest => some ([], rest)
    | s => do
      let (item, rest) ← value? fuel room s
      match skipLines false rest with
      | ',' :: rest => (items? fuel room rest).map fun (items, rest) => (item :: items, rest)
      | ']' :: rest => return ([item], rest)
      | _ => none

/-- The members of a table in braces up to its closing brace. -/
def members? : (fuel room : Nat) → Entries → Reader Entries
  | 0, _, _, _ => none
  | fuel + 1, room, entries, s => do
    let (keys, rest) ← keyEquals? s
    let (value, rest) ← value? fuel room rest
    let entries ← entries.defineKeys keys value
    match skipGap rest with
    | ',' :: rest => members? fuel room entries rest
    | '}' :: rest => return (entries, rest)
    | _ => none

end

/-! ### Lines -/

/-- The keys of a header behind its opening bracket, and what follows its line. -/
def header? : Reader (List String) := fun s => do
  match (← keys? maxNesting s) with
  | (keys, ']' :: rest) => return (keys, ← afterLine? rest)
  | _ => none

/-- A key and its value, and what follows their line. -/
def keyValue? : Reader (List String × Value) := fun s => do
  let (keys, rest) ← keyEquals? s
  let (value, rest) ← value? (2 * rest.length + 2) maxNesting rest
  return ((keys, value), ← afterLine? rest)

/-- The entries of a file of which some were read, the last header being that of the table at the end
of a way of keys. -/
def entriesFrom : (fuel : Nat) → (way : List String) → Entries → List Char → Option Entries
  | 0, _, _, _ => none
  | fuel + 1, way, entries, s =>
    match skipGap s with
    | [] => some entries
    | '#' :: rest => do entriesFrom fuel way entries (← afterLine? ('#' :: rest))
    | '\n' :: rest => entriesFrom fuel way entries rest
    | '\r' :: '\n' :: rest => entriesFrom fuel way entries rest
    | '[' :: rest => do
      let (keys, rest) ← header? rest
      entriesFrom fuel keys (← entries.openTable keys) rest
    | s => do
      let ((keys, value), rest) ← keyValue? s
      entriesFrom fuel way (← entries.change (Entries.defineKeys keys value) way) rest

/-- The entries of a settings file, if it is well formed.  A byte order mark in front of it does not
count. -/
def read? (text : String) : Option Entries :=
  let s := match text.toList with
    | '\uFEFF' :: rest => rest
    | s => s
  entriesFrom (s.length + 1) [] [] s

end Gamebook.Toml
