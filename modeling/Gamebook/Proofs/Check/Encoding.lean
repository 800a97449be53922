import Gamebook.Check.Encoding
import Gamebook.Proofs.Json.Widening

/-!
# Reports are read as they were written

Writing a report and reading one are two descriptions of its fields, made apart from each other.
They agree: what is written for a report is read as that report, and it still is when a program that
knows more has added members to any of the objects in it.

The theorem goes up from the parts.  Words are read by their tables, the kind of an offender decides
which fields are asked for, and lists are read item by item.  The numbers of a report are the one
part that can be too large to be read, since a count has 64 bits.
-/

namespace Gamebook.Check

open Gamebook.Json Value

/-! ### Words and offenders -/

theorem Severity.reads_ofJson? (severity : Severity) :
    Reads Severity.ofJson? (.string severity.name) severity :=
  (reads_word? severity.name).bind (ofName?_name severity)

theorem Status.reads_ofJson? (status : Status) :
    Reads Status.ofJson? (.string status.name) status :=
  (reads_word? status.name).bind (ofName?_name status)

namespace Offender

/-- What is read of an offender depends on the kind that was written. -/
theorem ofJson?_of_kind {kind : String} {members wider : List (String × Value)}
    (widened : WidenedMembers (members.map (·.1)) members wider)
    (found : member? "kind" members = some (.string kind)) :
    ofJson? (.object wider) = ofKind? kind (.object wider) := by
  obtain ⟨wide, found, ⟨⟩⟩ := exists_member?_of_widened widened found
  rw [ofJson?, found]
  rfl

theorem reads_route? (kind : String) (groups sourceIds : List String) :
    Reads route? (routeJson kind groups sourceIds) (groups, sourceIds) := by
  intro wide widened
  obtain ⟨_, found, _ | ⟨first, _ | ⟨second, ⟨⟩⟩⟩⟩ :=
    fields?_of_widened widened ["groups", "sourceIds"] rfl
  simp [route?, found, reads_texts? groups _ first, reads_texts? sourceIds _ second]

theorem reads_ofJson? (offender : Offender) : Reads ofJson? offender.toJson offender := by
  intro wide widened
  cases offender with
  | node group sourceId =>
    obtain ⟨_, found, _ | ⟨first, _ | ⟨second, ⟨⟩⟩⟩⟩ :=
      fields?_of_widened widened ["group", "sourceId"] rfl
    obtain ⟨wider, rfl, inner⟩ := exists_of_object_widened widened
    rw [ofJson?_of_kind inner rfl]
    simp [ofKind?, found, reads_text? group _ first, reads_text? sourceId _ second]
  | loop groups sourceIds =>
    have route := reads_route? "loop" groups sourceIds wide widened
    obtain ⟨wider, rfl, inner⟩ := exists_of_object_widened widened
    rw [ofJson?_of_kind inner rfl, ofKind?, route]
    rfl
  | playthrough groups sourceIds =>
    have route := reads_route? "playthrough" groups sourceIds wide widened
    obtain ⟨wider, rfl, inner⟩ := exists_of_object_widened widened
    rw [ofJson?_of_kind inner rfl, ofKind?, route]
    rfl

theorem reads_listOfJson? (offenders : List Offender) :
    Reads listOfJson? (.array (offenders.map toJson)) offenders :=
  Reads.array fun offender _ => offender.reads_ofJson?

end Offender

/-! ### Records -/

theorem Outcome.reads_ofJson? (outcome : Outcome) : Reads ofJson? outcome.toJson outcome := by
  intro wide widened
  obtain ⟨_, found, _ | ⟨name, _ | ⟨label, _ | ⟨severity, _ | ⟨status, _ | ⟨offenders, ⟨⟩⟩⟩⟩⟩⟩⟩ :=
    fields?_of_widened widened ["name", "label", "severity", "status", "offenders"] rfl
  simp [ofJson?, found, reads_text? _ _ name, reads_text? _ _ label,
    Severity.reads_ofJson? _ _ severity, Status.reads_ofJson? _ _ status,
    Offender.reads_listOfJson? _ _ offenders]

/-- The numbers fit into 64 bits. -/
def Summary.Fits (summary : Summary) : Prop :=
  ∀ n ∈ [summary.groupCount, summary.variantCount, summary.checkCount, summary.failureCount,
    summary.warningCount, summary.skippedCount], n ≤ largestCount

instance (summary : Summary) : Decidable summary.Fits := inferInstanceAs (Decidable (∀ n ∈ _, _))

theorem Summary.reads_ofJson? {summary : Summary} (fits : summary.Fits) :
    Reads ofJson? summary.toJson summary := by
  intro wide widened
  obtain ⟨_, found, _ | ⟨groups, _ | ⟨variants, _ | ⟨checks, _ | ⟨failures, _ | ⟨warnings,
      _ | ⟨skipped, ⟨⟩⟩⟩⟩⟩⟩⟩⟩ := fields?_of_widened widened Summary.names rfl
  simp [ofJson?, found, reads_count? (fits _ (by simp)) _ groups,
    reads_count? (fits _ (by simp)) _ variants,
    reads_count? (fits _ (by simp)) _ checks, reads_count? (fits _ (by simp)) _ failures,
    reads_count? (fits _ (by simp)) _ warnings, reads_count? (fits _ (by simp)) _ skipped]

namespace Report

theorem reads_ofJson? {report : Report} (fits : report.summary.Fits) :
    Reads ofJson? report.toJson report := by
  intro wide widened
  obtain ⟨_, found, _ | ⟨kind, _ | ⟨result, _ | ⟨summary, _ | ⟨checks, ⟨⟩⟩⟩⟩⟩⟩ :=
    fields?_of_widened widened ["checkKind", "result", "summary", "checks"] rfl
  have outcomes := Reads.array (fun outcome _ => Outcome.reads_ofJson? outcome) _ checks
  simp [ofJson?, found, reads_text? _ _ kind, reads_text? _ _ result,
    Summary.reads_ofJson? fits _ summary, outcomes]

/-- **A report is read as it was written**, provided that its numbers fit into 64 bits, and further
members in any of its objects do not change what is read. -/
theorem ofJson?_toJson_widened (report : Report) (fits : report.summary.Fits) :
    ofJson? report.toJson = some report ∧
      ∀ wide, report.toJson.Widened wide → ofJson? wide = some report :=
  ⟨(reads_ofJson? fits).self, fun wide widened => reads_ofJson? fits wide widened⟩

/-- A report with an offender of each kind and a number that just fits. -/
def gateReport : Report where
  checkKind := storyCheckKind
  result := "no \"verdict\""
  summary := ⟨largestCount, 0, 1, 0, 1, 0⟩
  checks := [⟨"gates", "gates to nowhere", .off, .warn,
    [.node "gate" "1", .loop ["gate", "yard", "gate"] ["1", "2"], .playthrough [] []]⟩]

/-- The numbers of that report with a member behind them. -/
def annotatedNumbers : Value :=
  .object [("groupCount", .count largestCount), ("variantCount", .count 0), ("checkCount", .count 1),
    ("failureCount", .count 0), ("warningCount", .count 1), ("skippedCount", .count 0),
    ("seconds", .object [("kind", .string "loop")])]

/-- The loop of that report with a member under a name that is a field of other offenders. -/
def annotatedLoop : Value :=
  .object [("kind", .string "loop"), ("group", .strings []),
    ("groups", .strings ["gate", "yard", "gate"]), ("sourceIds", .strings ["1", "2"])]

/-- The value of that report with those members, and one more in front of its fields. -/
def annotatedReport : Value :=
  .object [("groups", .null), ("checkKind", .string storyCheckKind),
    ("result", .string "no \"verdict\""), ("summary", annotatedNumbers),
    ("checks", .array [.object [("name", .string "gates"), ("label", .string "gates to nowhere"),
      ("severity", .string "off"), ("status", .string "warn"),
      ("offenders", .array [Offender.toJson (.node "gate" "1"), annotatedLoop,
        Offender.toJson (.playthrough [] [])])]])]

theorem gateReport_widened : gateReport.toJson.Widened annotatedReport := by
  have numbers : gateReport.summary.toJson.Widened annotatedNumbers :=
    .object <| .keep (.refl _) <| .keep (.refl _) <| .keep (.refl _) <| .keep (.refl _) <|
      .keep (.refl _) <| .keep (.refl _) <| .add _ (by decide) .nil
  have loop : (Offender.toJson (.loop ["gate", "yard", "gate"] ["1", "2"])).Widened annotatedLoop :=
    .object <| .keep (.refl _) <| .add _ (by decide) <| .keep (.refl _) <| .keep (.refl _) .nil
  refine .object <| .add _ (by decide) <| .keep (.refl _) <| .keep (.refl _) <| .keep numbers <|
    .keep (.array <| .cons ?_ .nil) .nil
  exact .object <| .keep (.refl _) <| .keep (.refl _) <| .keep (.refl _) <| .keep (.refl _) <|
    .keep (.array <| .cons (.refl _) <| .cons loop <| .cons (.refl _) .nil) .nil

theorem gateReport_read_among_more :
    gateReport.summary.Fits ∧ gateReport.toJson.Widened annotatedReport ∧
      ofJson? gateReport.toJson = some gateReport ∧ ofJson? annotatedReport = some gateReport := by
  have fits : gateReport.summary.Fits := by decide
  obtain ⟨again, among⟩ := ofJson?_toJson_widened gateReport fits
  exact ⟨fits, gateReport_widened, again, among _ gateReport_widened⟩

end Report

end Gamebook.Check
