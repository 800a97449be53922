import Gamebook.Analysis.Loop
import Gamebook.Analysis.Playthrough
import Gamebook.Decimal.Numeral

/-!
# Reports

What a run of the checks found.  A check that found something is counted by its severity: a required
check fails the story, a warning is only noted, and a check that is switched off is skipped.  The story
is accepted when nothing failed.

The verdict is kept in the report as the word for it, and the kind of the report likewise, because a
report may be read that another program wrote.  `Report.ofOutcomes` is the only place where they are
decided.
-/

namespace Gamebook.Check

open Gamebook.Analysis Gamebook.Story

/-! ### Severity and status -/

/-- What it means for the story that a check found something. -/
inductive Severity where
  /-- The story is rejected. -/
  | required
  /-- The finding is noted. -/
  | warning
  /-- The check is not made. -/
  | off
  deriving DecidableEq, Repr

namespace Severity

/-- The word for a severity. -/
def name : Severity → String
  | required => "required"
  | warning => "warning"
  | off => "off"

/-- The severity with that word. -/
def ofName? : String → Option Severity
  | "required" => some required
  | "warning" => some warning
  | "off" => some off
  | _ => none

@[simp] theorem ofName?_name (severity : Severity) : ofName? severity.name = some severity := by
  cases severity <;> rfl

end Severity

/-- How a check ended. -/
inductive Status where
  | pass
  | warn
  | fail
  | skipped
  deriving DecidableEq, Repr

namespace Status

/-- The word for a status. -/
def name : Status → String
  | pass => "pass"
  | warn => "warn"
  | fail => "fail"
  | skipped => "skipped"

/-- The status with that word. -/
def ofName? : String → Option Status
  | "pass" => some pass
  | "warn" => some warn
  | "fail" => some fail
  | "skipped" => some skipped
  | _ => none

@[simp] theorem ofName?_name (status : Status) : ofName? status.name = some status := by
  cases status <;> rfl

end Status

/-! ### Offenders -/

/-- What a check points at. -/
inductive Offender where
  /-- A variant. -/
  | node (group sourceId : String)
  /-- A loop, by the groups of its canonical form and the variants walked. -/
  | loop (groups sourceIds : List String)
  /-- A playthrough, by its groups and variants. -/
  | playthrough (groups sourceIds : List String)
  deriving DecidableEq, Repr

namespace Offender

/-- A variant as an offender. -/
def ofNode (node : Node) : Offender := .node node.group node.sourceId

/-- A loop as an offender. -/
def ofLoop (found : Loop) : Offender := .loop found.canonical found.sourceIds

/-- A playthrough as an offender. -/
def ofPlaythrough (path : Playthrough) : Offender := .playthrough path.groupNames path.sourceIds

/-- Groups in the order in which they are walked. -/
def describeRoute (groups : List String) : String := " -> ".intercalate groups

/-- One line about an offender. -/
def describe : Offender → String
  | .node _ sourceId => sourceId
  | .loop groups _ => describeRoute groups
  | .playthrough groups _ =>
    describeRoute groups ++ " (" ++ Numeral.text groups.length ++ " steps)"

end Offender

/-! ### Outcomes and reports -/

/-- What became of one check. -/
structure Outcome where
  /-- The name of the check. -/
  name : String
  /-- What the check looks for. -/
  label : String
  /-- The severity it was made with. -/
  severity : Severity
  /-- How it ended. -/
  status : Status
  /-- What it found. -/
  offenders : List Offender
  deriving DecidableEq, Repr

/-- The numbers of a report. -/
structure Summary where
  groupCount : Nat
  variantCount : Nat
  checkCount : Nat
  failureCount : Nat
  warningCount : Nat
  skippedCount : Nat
  deriving DecidableEq, Repr

/-- What a run of the checks found. -/
structure Report where
  /-- The kind of report this is. -/
  checkKind : String
  /-- The word for the verdict. -/
  result : String
  /-- The numbers. -/
  summary : Summary
  /-- The outcomes in the order of the checks. -/
  checks : List Outcome
  deriving DecidableEq, Repr

/-- The number of outcomes with a status. -/
def countStatus (status : Status) (checks : List Outcome) : Nat :=
  checks.countP fun outcome => outcome.status == status

namespace Report

/-- The kind of the reports on a story. -/
def storyCheckKind : String := "branchtale.story_check.v1"

/-- The word for the verdict on a story of which so many checks failed. -/
def verdict (failureCount : Nat) : String := if failureCount = 0 then "accepted" else "rejected"

/-- The report on a story with so many groups and variants. -/
def ofOutcomes (groupCount variantCount : Nat) (checks : List Outcome) : Report where
  checkKind := storyCheckKind
  result := verdict (countStatus .fail checks)
  summary :=
    { groupCount, variantCount
      checkCount := checks.length
      failureCount := countStatus .fail checks
      warningCount := countStatus .warn checks
      skippedCount := countStatus .skipped checks }
  checks := checks

/-- The story was accepted. -/
def accepted (report : Report) : Bool := report.result == "accepted"

/-- The names of the checks that failed. -/
def failedChecks (report : Report) : List String :=
  (report.checks.filter fun outcome => outcome.status == .fail).map (·.name)

/-- **A story is accepted when no check failed.** -/
theorem accepted_ofOutcomes (groupCount variantCount : Nat) (checks : List Outcome) :
    (ofOutcomes groupCount variantCount checks).accepted = (countStatus .fail checks == 0) := by
  by_cases h : countStatus .fail checks = 0 <;> simp [accepted, ofOutcomes, verdict, h]

end Report

end Gamebook.Check
