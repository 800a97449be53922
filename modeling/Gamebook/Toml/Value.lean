import Gamebook.Toml.Moment

/-!
# Settings values

What a settings file says: tables of texts, booleans, numbers, moments, lists and further tables.  A table
remembers how it came to be, because that decides whether it may still grow.  A table written in braces
is finished.  A table with a header of its own takes the lines below the header and nothing else.  A
table that only stands between the names of other headers may still get a header of its own, and one
made by dotted keys may be extended by dotted keys.
-/

namespace Gamebook.Toml

/-- How a table came to be. -/
inductive Origin where
  /-- It is written in braces. -/
  | braces
  /-- It has a header. -/
  | header
  /-- It stands on the way to a table with a header. -/
  | between
  /-- It stands on the way of a dotted key. -/
  | dotted
  deriving DecidableEq, Repr

/-- A value of a settings file. -/
inductive Value where
  | text (value : String)
  | boolean (value : Bool)
  | integer (value : Int)
  | real (value : Float)
  | moment (value : Moment)
  | list (items : List Value)
  | table (origin : Origin) (entries : List (String × Value))
  deriving Repr, Inhabited

/-- The entries of a table. -/
abbrev Entries : Type := List (String × Value)

namespace Entries

/-- The value under a key. -/
def find? (key : String) : Entries → Option Value
  | [] => none
  | (name, value) :: rest => if name = key then some value else find? key rest

/-- The entries with the value under a key replaced. -/
def replace (key : String) (value : Value) (entries : Entries) : Entries :=
  entries.map fun entry => if entry.1 = key then (key, value) else entry

/-! ### Growing tables -/

/-- The entries with a value under a dotted key: the keys on the way, and the last one.  Tables on the
way are made where they are missing.  A table that has a header or is written in braces is not
extended, and a table that has no header yet gets no value of its own this way. -/
def define (last : String) (value : Value) : (way : List String) → Entries → Option Entries
  | [], entries =>
    match entries.find? last with
    | some _ => none
    | none => some (entries ++ [(last, value)])
  | key :: way, entries =>
    match entries.find? key with
    | none => (define last value way []).map fun inner => entries ++ [(key, .table .dotted inner)]
    | some (.table .dotted inner) =>
      (define last value way inner).map fun inner => entries.replace key (.table .dotted inner)
    | some (.table .between inner) =>
      if way.isEmpty then none
      else (define last value way inner).map fun inner => entries.replace key (.table .between inner)
    | some _ => none

/-- The entries with a header for the table at the end of a way of keys.  A table has one header at
most. -/
def openTable : (way : List String) → Entries → Option Entries
  | [], _ => none
  | [key], entries =>
    match entries.find? key with
    | none => some (entries ++ [(key, .table .header [])])
    | some (.table .between inner) => some (entries.replace key (.table .header inner))
    | some _ => none
  | key :: way, entries =>
    match entries.find? key with
    | none => (openTable way []).map fun inner => entries ++ [(key, .table .between inner)]
    | some (.table .braces _) => none
    | some (.table origin inner) =>
      (openTable way inner).map fun inner => entries.replace key (.table origin inner)
    | some _ => none

/-- The entries with those of the table at the end of a way of keys changed. -/
def change (grow : Entries → Option Entries) : (way : List String) → Entries → Option Entries
  | [], entries => grow entries
  | key :: way, entries =>
    match entries.find? key with
    | some (.table origin inner) =>
      (change grow way inner).map fun inner => entries.replace key (.table origin inner)
    | _ => none

end Entries

end Gamebook.Toml
