import Gamebook.Analysis.Escape
import Gamebook.Analysis.Fault
import Gamebook.Analysis.Playthrough
import Gamebook.Analysis.Reach
import Gamebook.Check.Report
import Gamebook.Marker.Usage

/-!
# The checks

A check looks for something in a story, and has a name, a label and a severity.  Most checks are flagged
by what they find; two of them look for something every story needs, and are flagged when it is not
there.  The catalogue lists the checks in the order in which they are made.
-/

namespace Gamebook.Check

open Gamebook.Analysis Gamebook.Marker Gamebook.Story

/-! ### What is looked for -/

/-- What a check looks for. -/
inductive Probe where
  /-- Variants with a fault of their own. -/
  | fault (kind : Fault)
  /-- Variants that no reader comes to. -/
  | unreachable
  /-- Loops that a reader can leave for an ending. -/
  | escapableLoops
  /-- Loops that a reader cannot leave for an ending. -/
  | inescapableLoops
  /-- Playthroughs of an unusual length. -/
  | abnormalPlaythroughs
  /-- Variants that declare a value which is not accepted. -/
  | metadata (concern : Concern)
  /-- Variants with a misplaced marker. -/
  | markers (concern : Concern)
  /-- Variants that overuse a marker. -/
  | overuse (concern : Concern)
  deriving DecidableEq, Repr

/-- All that what is found depends on. -/
structure Context where
  /-- The story. -/
  graph : Graph
  /-- The rules of its style. -/
  rules : Rules
  /-- How far the length of a playthrough may be from the mean. -/
  deviation : Float := defaultDeviation

/-- What is found in a story. -/
def Probe.offenders (context : Context) : Probe → List Offender
  | .fault kind => (kind.find context.graph).map .ofNode
  | .unreachable => (Analysis.unreachable context.graph).map .ofNode
  | .escapableLoops => (classifyLoops context.graph).escapable.map .ofLoop
  | .inescapableLoops => (classifyLoops context.graph).inescapable.map .ofLoop
  | .abnormalPlaythroughs =>
    (Analysis.abnormalPlaythroughs context.graph context.deviation).map .ofPlaythrough
  | .metadata concern => (context.rules.metadataViolations context.graph concern).map .ofNode
  | .markers concern => (context.rules.lineViolations context.graph concern).map .ofNode
  | .overuse concern => (context.rules.overuse context.graph concern).map .ofNode

/-! ### Checks -/

/-- A check of the catalogue. -/
structure Entry where
  /-- The name by which its severity is set. -/
  name : String
  /-- What it looks for, in words. -/
  label : String
  /-- What it means for the story that the check is flagged. -/
  severity : Severity
  /-- The check is flagged when nothing is found, not when something is. -/
  flaggedByNone : Bool
  /-- What it looks for. -/
  probe : Probe
  deriving DecidableEq, Repr

namespace Entry

/-- A check that rejects the story by what it finds. -/
def required (name label : String) (probe : Probe) : Entry := ⟨name, label, .required, false, probe⟩

/-- A check that only notes what it finds. -/
def warning (name label : String) (probe : Probe) : Entry := ⟨name, label, .warning, false, probe⟩

/-- A check that rejects the story by finding nothing. -/
def needed (name label : String) (probe : Probe) : Entry := ⟨name, label, .required, true, probe⟩

end Entry

/-- The checks in the order in which they are made, with the severities they have unless changed. -/
def catalogue : List Entry :=
  [.needed "starting_nodes" "at least one starting part" (.fault .startingNodes),
   .needed "ending_nodes" "at least one ending part" (.fault .endingNodes),
   .required "start_end_nodes" "parts that are both start and end points" (.fault .startEndNodes),
   .required "empty_nodes" "parts without text" (.fault .emptyNodes),
   .required "duplicate_nodes" "parts with duplicate text" (.fault .duplicateNodes),
   .warning "invalid_links" "parts with missing or invalid links" (.fault .invalidLinks),
   .required "dead_ends" "parts with no choices" (.fault .deadEnds),
   .required "continuing_ends" "ending parts that contain choices" (.fault .continuingEnds),
   .required "noncontinuing_variants" "parts with choices on only some variants"
      (.fault .noncontinuingVariants),
   .required "revisit_variants" "parts that forbid revisits while siblings allow them"
      (.fault .revisitVariants),
   .warning "single_choice" "parts with a single choice" (.fault .singleChoice),
   .warning "duplicate_choices" "parts with duplicate choice paths" (.fault .duplicateChoices),
   .warning "divergent_flags" "parts whose variants disagree on start or end"
      (.fault .divergentFlags),
   .required "unreachable_nodes" "parts that cannot be reached" .unreachable,
   .warning "escapable_loops" "parts with looping choices" .escapableLoops,
   .required "inescapable_loops" "parts with inescapable looping choices" .inescapableLoops,
   .warning "abnormal_paths" "playthroughs far shorter or longer than average"
      .abnormalPlaythroughs,
   .required "colour_metadata" "parts with invalid colour options" (.metadata .colour),
   .required "colour_markers" "parts with misplaced colour markers" (.markers .colour),
   .required "excessive_colours" "parts overusing one colour marker" (.overuse .colour),
   .required "pace_metadata" "parts with invalid pace options" (.metadata .pace),
   .required "pace_markers" "parts with misplaced pace markers" (.markers .pace),
   .required "excessive_pacing" "parts overusing one pace marker" (.overuse .pace),
   .required "effect_metadata" "parts with invalid effect options" (.metadata .effect),
   .required "effect_markers" "parts with misplaced effect markers" (.markers .effect),
   .required "excessive_effects" "parts overusing one effect marker" (.overuse .effect),
   .required "pov_metadata" "parts with invalid pov options" (.metadata .pointOfView),
   .required "pov_markers" "parts with misplaced pov markers" (.markers .pointOfView),
   .required "excessive_povs" "parts overusing one pov marker" (.overuse .pointOfView),
   .required "message_metadata" "parts with invalid message-pov options" (.metadata .message),
   .required "message_markers" "parts with misplaced message markers" (.markers .message),
   .required "message_title_metadata" "parts with invalid message-title options"
      (.metadata .messageTitle),
   .required "message_title_markers" "parts with misplaced message title markers"
      (.markers .messageTitle)]

/-- The names of the checks. -/
def checkNames : List String := catalogue.map (·.name)

end Gamebook.Check
