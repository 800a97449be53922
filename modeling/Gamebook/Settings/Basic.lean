import Gamebook.Check.Catalogue
import Gamebook.Story.NameTable

/-!
# Settings

What can be set for a story: where its documents are and where the compiled story goes, whether groups
may be entered again, its vocabulary, the limits of its style, and the severities of the checks.
Everything has a value without being set.
-/

namespace Gamebook

open Gamebook.Analysis Gamebook.Check Gamebook.Marker

/-- The settings of a story. -/
structure Settings where
  /-- The directory of the documents. -/
  root : String := "story"
  /-- The path of the compiled story. -/
  output : String := "src/story.json"
  /-- A group may be entered again unless it says otherwise. -/
  revisitDefault : Bool := true
  /-- The path of a list of colours, one on a line, that takes the place of the usual ones. -/
  coloursPath? : Option String := none
  /-- Colours beside those. -/
  colours : List String := []
  /-- The effects, if there are any, that take the place of the usual ones. -/
  effects : List String := []
  /-- The limits of style. -/
  thresholds : Thresholds := {}
  /-- How far the length of a playthrough may be from the mean. -/
  deviation : Float := defaultDeviation
  /-- The severities of checks by name. -/
  severities : NameTable Severity := NameTable.empty

end Gamebook
