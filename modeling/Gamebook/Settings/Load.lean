import Gamebook.Check.Run
import Gamebook.FileTree.Basic
import Gamebook.Settings.Reading
import Gamebook.Text.Lowercase

/-!
# Loading settings

Settings are read from the file that is asked for, or else from the usual one if it is there; without
it everything has its usual value.  A file that cannot be read, one that is malformed, and one that
names a check that there is not are refused, in this order.

The words of the vocabulary may be in a file of their own, which is read when the words are needed.
-/

namespace Gamebook

open Gamebook.Check Gamebook.FileTree Gamebook.Marker

namespace Settings

/-! ### Errors -/

/-- Why there are no settings, or no rules made from them. -/
inductive Refusal where
  /-- The settings file cannot be read. -/
  | unreadable (path : String) (failure : Failure)
  /-- The settings file is malformed. -/
  | malformed (path : String)
  /-- A severity is set for a check that there is not. -/
  | unknownCheck (name : String)
  /-- The list of colours cannot be read. -/
  | colours (path : String) (failure : Failure)
  /-- A concern is left without words. -/
  | vocabulary (error : EmptyVocabulary)
  deriving DecidableEq, Repr

/-- What is said of settings that are refused. -/
def Refusal.message : Refusal → String
  | unreadable path failure => "failed to read " ++ path ++ ": " ++ failure.message
  | malformed path => "failed to parse " ++ path
  | unknownCheck name => (UnknownCheck.mk name).message ++ " in [checks]"
  | colours path failure => "failed to read colour list " ++ path ++ ": " ++ failure.message
  | vocabulary error => error.message

/-! ### Files -/

/-- The path of the usual settings file. -/
def usualPath : String := "branchtale.toml"

/-- The least name with a severity that no check has. -/
def unknownName? (settings : Settings) : Option String :=
  settings.severities.names.find? fun name => !checkNames.contains name

/-- The settings in the text of a file. -/
def parse (text path : String) : Except Refusal Settings :=
  match ofText? text with
  | none => .error (.malformed path)
  | some settings =>
    match settings.unknownName? with
    | some name => .error (.unknownCheck name)
    | none => .ok settings

/-- The settings in the file at a path. -/
def readFile (tree : FileTree) (path : String) : Except Refusal Settings :=
  match tree.readText path with
  | .error failure => .error (.unreadable path failure)
  | .ok text => parse text path

/-- The settings in the file that is asked for, or in the usual one, or the usual ones. -/
def load (tree : FileTree) : (path? : Option String) → Except Refusal Settings
  | some path => readFile tree path
  | none => if tree.hasEntry usualPath then readFile tree usualPath else .ok {}

/-! ### Vocabulary -/

/-- The word for a colour: without blanks around it, in lower case. -/
def colourWord (text : List Char) : String := Text.lowercase (String.ofList (Text.trimmed text))

/-- The colours that a list names, one on a line. -/
def colourList (text : String) : List String :=
  ((Text.lines text.toList).map colourWord).filter fun word => !word.isEmpty

/-- The colours that the settings start from. -/
def baseColours (settings : Settings) (tree : FileTree) : Except Refusal (List String) :=
  match settings.coloursPath? with
  | none => .ok defaultColours
  | some path =>
    match tree.readText path with
    | .error failure => .error (.colours path failure)
    | .ok text => .ok (colourList text)

/-- The vocabulary that the settings make. -/
def vocabulary (settings : Settings) (tree : FileTree) : Except Refusal Vocabulary := do
  let colours ← settings.baseColours tree
  return {
    colours := colours ++ settings.colours.map fun colour => colourWord colour.toList
    effects := if settings.effects.isEmpty then defaultEffects else settings.effects }

/-- The rules of style that the settings make. -/
def rules (settings : Settings) (tree : FileTree) : Except Refusal Rules := do
  let vocabulary ← settings.vocabulary tree
  (Rules.ofVocabulary vocabulary settings.thresholds).mapError .vocabulary

end Settings

end Gamebook
