import Gamebook.Check.Report
import Gamebook.Json.Reading

/-!
# Reports as JSON values

A report is an object of its fields, an offender one that also says of which kind it is, and severity
and status are the words for them.  Reading asks for every field and lets every other member be, so
that a report with more in it than this library knows is still read.
-/

namespace Gamebook.Check

open Gamebook.Json (Value)

/-! ### Words -/

/-- The severity that a value stands for. -/
def Severity.ofJson? (value : Value) : Option Severity := value.word?.bind ofName?

/-- The status that a value stands for. -/
def Status.ofJson? (value : Value) : Option Status := value.word?.bind ofName?

/-! ### Offenders -/

namespace Offender

/-- The members of an offender with a route. -/
def routeJson (kind : String) (groups sourceIds : List String) : Value :=
  .object [("kind", .string kind), ("groups", .strings groups), ("sourceIds", .strings sourceIds)]

/-- The value of an offender. -/
def toJson : Offender → Value
  | .node group sourceId =>
    .object [("kind", .string "node"), ("group", .string group), ("sourceId", .string sourceId)]
  | .loop groups sourceIds => routeJson "loop" groups sourceIds
  | .playthrough groups sourceIds => routeJson "playthrough" groups sourceIds

/-- The two fields of an offender with a route. -/
def route? (value : Value) : Option (List String × List String) := do
  let [groups, sourceIds] ← value.fields? ["groups", "sourceIds"] | none
  return (← groups.texts?, ← sourceIds.texts?)

/-- The offender of a kind whose other fields are those of the value. -/
def ofKind? (kind : String) (value : Value) : Option Offender :=
  match kind with
  | "node" => do
    let [group, sourceId] ← value.fields? ["group", "sourceId"] | none
    return .node (← group.text?) (← sourceId.text?)
  | "loop" => (route? value).map fun route => .loop route.1 route.2
  | "playthrough" => (route? value).map fun route => .playthrough route.1 route.2
  | _ => none

/-- The offender that a value is about: an object with its kind and its fields, or an array that starts
with its kind. -/
def ofJson? : Value → Option Offender
  | .object members => do
    let kind ← (Value.member? "kind" members).bind Value.text?
    ofKind? kind (.object members)
  | .array (.string kind :: items) => ofKind? kind (.array items)
  | _ => none

/-- The offenders of an array. -/
def listOfJson? (value : Value) : Option (List Offender) := value.items?.bind (·.mapM ofJson?)

end Offender

/-! ### Outcomes -/

namespace Outcome

/-- The value of an outcome. -/
def toJson (outcome : Outcome) : Value :=
  .object [("name", .string outcome.name), ("label", .string outcome.label),
    ("severity", .string outcome.severity.name), ("status", .string outcome.status.name),
    ("offenders", .array (outcome.offenders.map Offender.toJson))]

/-- The outcome that a value is about. -/
def ofJson? (value : Value) : Option Outcome := do
  let [name, label, severity, status, offenders] ←
    value.fields? ["name", "label", "severity", "status", "offenders"] | none
  return {
    name := ← name.text?
    label := ← label.text?
    severity := ← Severity.ofJson? severity
    status := ← Status.ofJson? status
    offenders := ← Offender.listOfJson? offenders }

end Outcome

/-! ### Numbers -/

namespace Summary

/-- The names of the numbers of a report. -/
def names : List String :=
  ["groupCount", "variantCount", "checkCount", "failureCount", "warningCount", "skippedCount"]

/-- The value of the numbers of a report. -/
def toJson (summary : Summary) : Value :=
  .object [("groupCount", .count summary.groupCount), ("variantCount", .count summary.variantCount),
    ("checkCount", .count summary.checkCount), ("failureCount", .count summary.failureCount),
    ("warningCount", .count summary.warningCount), ("skippedCount", .count summary.skippedCount)]

/-- The numbers that a value is about. -/
def ofJson? (value : Value) : Option Summary := do
  let [groups, variants, checks, failures, warnings, skipped] ← value.fields? names | none
  return {
    groupCount := ← groups.count?
    variantCount := ← variants.count?
    checkCount := ← checks.count?
    failureCount := ← failures.count?
    warningCount := ← warnings.count?
    skippedCount := ← skipped.count? }

end Summary

/-! ### Reports -/

namespace Report

/-- The value of a report. -/
def toJson (report : Report) : Value :=
  .object [("checkKind", .string report.checkKind), ("result", .string report.result),
    ("summary", report.summary.toJson), ("checks", .array (report.checks.map Outcome.toJson))]

/-- The report that a value is about. -/
def ofJson? (value : Value) : Option Report := do
  let [checkKind, result, summary, checks] ←
    value.fields? ["checkKind", "result", "summary", "checks"] | none
  return {
    checkKind := ← checkKind.text?
    result := ← result.text?
    summary := ← Summary.ofJson? summary
    checks := ← checks.items?.bind (·.mapM Outcome.ofJson?) }

end Report

end Gamebook.Check
