import Gamebook.Check.Report
import Gamebook.Decimal.Numeral

/-!
# Layout of answers

How the answers of the program are laid out as lines of text.  A report starts with a line on the whole
story and goes on with a line for every check, its number and its name in columns; below a check that
failed or warned stand the offenders.
-/

namespace Gamebook.Command

open Gamebook.Check

/-! ### Columns -/

/-- The text with blanks in front of it up to a width. -/
def alignRight (width : Nat) (text : String) : String :=
  String.ofList (List.replicate (width - text.length) ' ') ++ text

/-- The text with blanks behind it up to a width. -/
def alignLeft (width : Nat) (text : String) : String :=
  text ++ String.ofList (List.replicate (width - text.length) ' ')

/-- The texts as lines, each ended by a line feed. -/
def asLines (lines : List String) : String := String.join (lines.map (· ++ "\n"))

/-! ### Reports -/

/-- The mark of a check that ended like this. -/
def statusMark : Status → String
  | .pass => "OK  "
  | .warn => "WARN"
  | .fail => "FAIL"
  | .skipped => "SKIP"

/-- The line on the whole story. -/
def summaryLine (report : Report) : String :=
  "[story-check] " ++ (if report.accepted then "OK" else "FAIL")
    ++ " (groups=" ++ Numeral.text report.summary.groupCount
    ++ ", variants=" ++ Numeral.text report.summary.variantCount
    ++ ", failures=" ++ Numeral.text report.summary.failureCount
    ++ ", warnings=" ++ Numeral.text report.summary.warningCount ++ ")"

/-- The line on a check, given its number, the number of checks and the width of the names. -/
def outcomeLine (number total nameWidth : Nat) (outcome : Outcome) : String :=
  let count := Numeral.text total
  statusMark outcome.status ++ "  " ++ alignRight count.length (Numeral.text number) ++ "/" ++ count
    ++ " " ++ alignLeft nameWidth outcome.name ++ " - " ++ outcome.label

/-- The lines on the offenders of a check that failed or warned. -/
def offenderLines (outcome : Outcome) : List String :=
  match outcome.status with
  | .warn => outcome.offenders.map fun offender => "      - " ++ offender.describe
  | .fail => outcome.offenders.map fun offender => "      - " ++ offender.describe
  | _ => []

/-- The lines of a report. -/
def reportLines (report : Report) : List String :=
  let total := report.checks.length
  let nameWidth := (report.checks.map fun outcome => outcome.name.utf8ByteSize).foldr max 0
  summaryLine report :: report.checks.zipIdx.flatMap fun (outcome, index) =>
    outcomeLine (index + 1) total nameWidth outcome :: offenderLines outcome

end Gamebook.Command
