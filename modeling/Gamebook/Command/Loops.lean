import Gamebook.Analysis.Escape
import Gamebook.Check.Report
import Gamebook.Json.Value

/-!
# Listing loops

The loops of a story as rows, in the order of the groups they go through, each with whether an ending
can be reached from it.
-/

namespace Gamebook.Command

open Gamebook.Analysis Gamebook.Check Gamebook.Json Gamebook.Story

/-- A loop of a story. -/
structure LoopRow where
  /-- The groups of the loop. -/
  groups : List String
  /-- The variants of the loop. -/
  sourceIds : List String
  /-- An ending can be reached. -/
  escapable : Bool
  deriving DecidableEq, Repr

/-- The row of a loop. -/
def LoopRow.ofLoop (escapable : Bool) (found : Loop) : LoopRow :=
  ⟨found.canonical, found.sourceIds, escapable⟩

/-- The rows of the loops of a story. -/
def loopRows (graph : Graph) : List LoopRow :=
  let classes := classifyLoops graph
  (classes.escapable.map (LoopRow.ofLoop true)
      ++ classes.inescapable.map (LoopRow.ofLoop false)).mergeSort
    fun a b => !decide (b.groups < a.groups)

/-- The number of rows with an ending in reach. -/
def escapableCount (rows : List LoopRow) : Nat := rows.countP (·.escapable)

/-- The value of a row. -/
def LoopRow.toJson (row : LoopRow) : Value :=
  .object [("groups", .strings row.groups), ("sourceIds", .strings row.sourceIds),
    ("escapable", .boolean row.escapable)]

/-- The line on a row. -/
def LoopRow.line (row : LoopRow) : String :=
  "  - " ++ (if row.escapable then "ESCAPABLE" else "TRAPPED") ++ " "
    ++ Offender.describeRoute row.groups

/-- The lines on the rows. -/
def loopLines (rows : List LoopRow) : List String :=
  ("[story-loops] " ++ Numeral.text rows.length ++ " loops (escapable="
    ++ Numeral.text (escapableCount rows) ++ ", inescapable="
    ++ Numeral.text (rows.length - escapableCount rows) ++ ")") :: rows.map LoopRow.line

/-- The kind of the lists of loops. -/
def loopsKind : String := "branchtale.story_loops.v1"

/-- The members of the value of a list of loops. -/
def loopsMembers (rows : List LoopRow) : List (String × Value) :=
  [("schema", .count 1), ("checkKind", .string loopsKind),
    ("loopCount", .count rows.length), ("escapableCount", .count (escapableCount rows)),
    ("inescapableCount", .count (rows.length - escapableCount rows)),
    ("loops", .array (rows.map LoopRow.toJson))]

end Gamebook.Command
