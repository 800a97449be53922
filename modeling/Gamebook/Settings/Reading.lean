import Gamebook.Settings.Basic
import Gamebook.Toml.Document

/-!
# Reading settings

A settings file has four sections.  A section is a table with names of its own, or a list of its values
in order, which may be shorter or longer than the names.  What is not there keeps its usual value, and a
name that is not known, like a value of another kind than wanted, makes the file malformed.

A severity is given by its word, or by a table whose only entry is an empty one under that word.
-/

namespace Gamebook.Settings

open Gamebook.Check Gamebook.Marker Gamebook.Toml

/-! ### Values -/

/-- The text of a value. -/
def text? : Value → Option String
  | .text value => some value
  | _ => none

/-- The texts of a list. -/
def texts? : Value → Option (List String)
  | .list items => items.mapM text?
  | _ => none

/-- The value is true or false. -/
def flag? : Value → Option Bool
  | .boolean value => some value
  | _ => none

/-- The number of a value. -/
def real? : Value → Option Float
  | .real value => some value
  | .integer value => some (Decimal.toFloat ⟨value < 0, value.natAbs, 0⟩)
  | _ => none

/-- The number that a value counts. -/
def count? : Value → Option Nat
  | .integer (.ofNat value) => some value
  | _ => none

/-- The value has nothing in it. -/
def isEmptyValue : Value → Bool
  | .list items => items.isEmpty
  | .table _ entries => entries.isEmpty
  | _ => false

/-- The severity that a value gives. -/
def severity? : Value → Option Severity
  | .text word => Severity.ofName? word
  | .table _ [(word, content)] => if isEmptyValue content then Severity.ofName? word else none
  | _ => none

/-! ### Sections -/

/-- The values of a section for its names, in their order. -/
def sectionValues? (names : List String) : Value → Option (List (Option Value))
  | .table _ entries =>
    if entries.all fun entry => names.contains entry.1 then
      some (names.map fun name => Entries.find? name entries)
    else none
  | .list items => some ((List.range names.length).map fun index => items[index]?)
  | _ => none

/-- The usual value if there is none, or what is read from the value. -/
def orUsual (usual : α) (read? : Value → Option α) : Option Value → Option α
  | none => some usual
  | some value => read? value

/-- The settings with those of the section on the story. -/
def withStory (settings : Settings) (content : Value) : Option Settings := do
  let [root, output, revisit] ← sectionValues? ["root", "output", "revisit_default"] content | none
  return { settings with
    root := ← orUsual settings.root text? root
    output := ← orUsual settings.output text? output
    revisitDefault := ← orUsual settings.revisitDefault flag? revisit }

/-- The settings with those of the section on the vocabulary. -/
def withVocabulary (settings : Settings) (content : Value) : Option Settings := do
  let [path, colours, effects] ← sectionValues? ["colours_path", "colours", "effects"] content | none
  return { settings with
    coloursPath? := ← orUsual none (fun value => (text? value).map some) path
    colours := ← orUsual settings.colours texts? colours
    effects := ← orUsual settings.effects texts? effects }

/-- The settings with those of the section on limits. -/
def withThresholds (settings : Settings) (content : Value) : Option Settings := do
  let [excessive, colour, lines, deviation] ← sectionValues?
    ["excessive", "excessive_colour", "min_excessive_lines", "path_deviation"] content | none
  return { settings with
    thresholds :=
      { excessive := ← orUsual settings.thresholds.excessive real? excessive
        excessiveColour := ← orUsual settings.thresholds.excessiveColour real? colour
        minLines := ← orUsual settings.thresholds.minLines count? lines }
    deviation := ← orUsual settings.deviation real? deviation }

/-- The severities of the section on checks. -/
def severities? : Value → Option (NameTable Severity)
  | .table _ entries =>
    (entries.mapM fun entry => (severity? entry.2).map fun severity => (entry.1, severity)).map
      NameTable.ofList
  | _ => none

/-- The settings with those of the section on checks. -/
def withChecks (settings : Settings) (content : Value) : Option Settings :=
  (severities? content).map fun severities => { settings with severities }

/-- The settings with those of the section of that name. -/
def withSection (settings : Settings) (entry : String × Value) : Option Settings :=
  match entry.1 with
  | "story" => settings.withStory entry.2
  | "vocabulary" => settings.withVocabulary entry.2
  | "thresholds" => settings.withThresholds entry.2
  | "checks" => settings.withChecks entry.2
  | _ => none

/-- The settings of a well-formed file. -/
def ofText? (text : String) : Option Settings :=
  (Toml.read? text).bind fun entries => entries.foldlM withSection ({} : Settings)

end Gamebook.Settings
