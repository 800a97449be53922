import Gamebook.Story.Node
import Gamebook.Text.Blank
import Gamebook.Yaml.Reading

/-!
# Metadata

The metadata block of a document is a mapping, and ten of its keys mean something: three flags, the
choices, and one option for each concern of style.  Every key is looked at by itself.  A key that is
absent, or whose value is null, leaves its field empty; a value of the wrong kind does too, and is
reported as a problem.  Reading metadata therefore never fails once the block is a mapping, and what
is read under one key does not depend on the other entries or on their order.

Flags may also be spelled `yes`, `no`, `on` and `off`, which YAML takes for plain texts.  Labels and
targets of choices are texts, so that two keys YAML tells apart, like `1` and `"1"`, may be one label;
of those the later one counts.
-/

namespace Gamebook.Document

open Gamebook.Story

/-! ### Keys -/

/-- The keys of the flags, of the choices, and of the options. -/
inductive Key where
  | start
  | ending
  | revisit
  | choices
  | option (concern : Concern)
  deriving DecidableEq, Repr

/-- A key as it is written. -/
def Key.text : Key → String
  | .start => "start"
  | .ending => "end"
  | .revisit => "revisit"
  | .choices => "choices"
  | .option .pace => "pace"
  | .option .colour => "colour"
  | .option .effect => "effect"
  | .option .pointOfView => "pov"
  | .option .message => "message-pov"
  | .option .messageTitle => "message-title"

/-! ### Problems -/

/-- What is wrong with the value of a key. -/
inductive Problem where
  | notBoolean (key : Key) (found : String)
  | notScalar (key : Key) (found : String)
  | notMapping (key : Key) (found : String)
  deriving DecidableEq, Repr

/-- What is reported about a value. -/
def Problem.message : Problem → String
  | .notBoolean key found => "\x60" ++ key.text ++ "\x60 must be a boolean, found " ++ found
  | .notScalar key found => "\x60" ++ key.text ++ "\x60 must be a scalar, found " ++ found
  | .notMapping key found => "\x60" ++ key.text ++ "\x60 must be a mapping, found " ++ found

/-- The kind of a value, as it is named in a problem. -/
def kindOf : Yaml.Value → String
  | .null => "null"
  | .boolean _ => "boolean"
  | .number _ => "number"
  | .string _ => "string"
  | .sequence _ => "sequence"
  | .mapping _ => "mapping"
  | .tagged _ _ => "tagged value"

/-! ### Values -/

/-- The entries of a metadata block. -/
abbrev Entries := List (Yaml.Value × Yaml.Value)

/-- What is read under a key: its value, or the empty one, and what is wrong. -/
structure Reading (α : Type) where
  /-- The value. -/
  value : α
  /-- The problem, if there is one. -/
  problem? : Option Problem := none

/-- The spellings of flags that YAML takes for texts. -/
def spelledFlag? (text : String) : Option Bool :=
  if ["yes", "Yes", "YES", "on", "On", "ON"].contains text then some true
  else if ["no", "No", "NO", "off", "Off", "OFF"].contains text then some false
  else none

/-- The flag that a value stands for. -/
def flagOf? : Yaml.Value → Option Bool
  | .boolean value => some value
  | .string text => spelledFlag? text
  | _ => none

/-- The text of a value that is a text, a number or a boolean. -/
def scalarText? : Yaml.Value → Option String
  | .string text => some text
  | .number number => some number.text
  | .boolean value => some (if value then "true" else "false")
  | _ => none

/-- Read a flag. -/
def readFlag (key : Key) (entries : Entries) : Reading (Option Bool) :=
  match Yaml.Value.get? key.text entries with
  | none => ⟨none, none⟩
  | some .null => ⟨none, none⟩
  | some value =>
    match flagOf? value with
    | some flag => ⟨some flag, none⟩
    | none => ⟨none, some (.notBoolean key (kindOf value))⟩

/-- Read an option. -/
def readOption (key : Key) (entries : Entries) : Reading (Option String) :=
  match Yaml.Value.get? key.text entries with
  | none => ⟨none, none⟩
  | some value =>
    if value.isNull then ⟨none, none⟩
    else
      match scalarText? value with
      | some text => ⟨some text, none⟩
      | none => ⟨none, some (.notScalar key (kindOf value))⟩

/-- The choice that an entry stands for: a label and a target, both texts and not empty. -/
def choiceOf? (entry : Yaml.Value × Yaml.Value) : Option (String × String) := do
  let label ← scalarText? entry.1
  let target ← scalarText? entry.2
  if label.isEmpty || target.isEmpty then none else some (label, target)

/-- Read the choices. -/
def readChoices (entries : Entries) : Reading (NameTable String) :=
  match Yaml.Value.get? Key.choices.text entries with
  | none => ⟨.empty, none⟩
  | some .null => ⟨.empty, none⟩
  | some (.mapping choices) => ⟨.ofList (choices.filterMap choiceOf?), none⟩
  | some value => ⟨.empty, some (.notMapping .choices (kindOf value))⟩

/-! ### Metadata -/

/-- What the metadata block of a document says. -/
structure Metadata where
  /-- What is declared about the group. -/
  said : Declaration := {}
  /-- Whether the passage may be entered again. -/
  revisit? : Option Bool := none
  /-- The choices offered. -/
  choices : NameTable String := .empty
  /-- The style declared. -/
  style : Style := {}
  /-- What is wrong with the values, in the order of the keys. -/
  problems : List Problem := []
  deriving DecidableEq, Inhabited

/-- The metadata in the entries of a block. -/
def Metadata.ofEntries (entries : Entries) : Metadata :=
  let start := readFlag .start entries
  let ending := readFlag .ending entries
  let revisit := readFlag .revisit entries
  let choices := readChoices entries
  let option := fun concern => readOption (.option concern) entries
  { said := { start? := start.value, ending? := ending.value }
    revisit? := revisit.value
    choices := choices.value
    style := .ofConcerns fun concern => (option concern).value
    problems :=
      ([start.problem?, ending.problem?, revisit.problem?, choices.problem?]
        ++ Concern.all.map fun concern => (option concern).problem?).filterMap id }

/-- Why a metadata block cannot be read. -/
inductive MetadataError where
  /-- The block is not the text of a value. -/
  | unreadable (cause : Yaml.Error)
  /-- The value is not a mapping. -/
  | notAMapping
  deriving DecidableEq, Repr

/-- The entries of a metadata block.  A block without anything in it has none. -/
def readEntries (block : String) : Except MetadataError Entries :=
  if Text.isBlankText block then .ok []
  else
    match Yaml.Value.read block with
    | .ok (.mapping entries) => .ok entries
    | .ok .null => .ok []
    | .ok _ => .error .notAMapping
    | .error cause => .error (.unreadable cause)

/-- The metadata in the text of a block. -/
def Metadata.ofText (block : String) : Except MetadataError Metadata :=
  (readEntries block).map Metadata.ofEntries

/-- What is reported about a block that is not a mapping. -/
def MetadataError.message : MetadataError → String
  | .unreadable _ => "invalid yaml front matter"
  | .notAMapping => "front matter must be a mapping"

end Gamebook.Document
