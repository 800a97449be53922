import Gamebook.Check.Catalogue
import Gamebook.Story.NameTable

/-!
# Running the checks

A check with its severity turns into an outcome, and the outcomes of all checks into a report.  The
severity says nothing about what is found, only about what it means; a check that is switched off is
the one whose findings are not looked for.

Severities are changed by name.  The changes are made in the order of the names, up to the first name
that no check has; the changes before it stay made, so that what a failed change leaves behind is a
matter of the names alone.
-/

namespace Gamebook.Check

/-! ### Outcomes -/

namespace Entry

/-- The check is flagged by what was found. -/
def flagged (entry : Entry) (offenders : List Offender) : Bool :=
  offenders.isEmpty == entry.flaggedByNone

/-- How a check with a severity ends that is flagged or not. -/
def statusOf : (flagged : Bool) → Severity → Status
  | _, .off => .skipped
  | false, _ => .pass
  | true, .required => .fail
  | true, .warning => .warn

/-- What a check finds and how it ends. -/
def evaluate (context : Context) (entry : Entry) : Outcome :=
  let offenders := match entry.severity with
    | .off => []
    | _ => entry.probe.offenders context
  { name := entry.name
    label := entry.label
    severity := entry.severity
    status := statusOf (entry.flagged offenders) entry.severity
    offenders }

@[simp] theorem name_evaluate (context : Context) (entry : Entry) :
    (entry.evaluate context).name = entry.name := rfl

@[simp] theorem severity_evaluate (context : Context) (entry : Entry) :
    (entry.evaluate context).severity = entry.severity := rfl

end Entry

/-- The report of a list of checks. -/
def run (context : Context) (entries : List Entry) : Report :=
  .ofOutcomes context.graph.groupCount context.graph.nodeCount (entries.map (Entry.evaluate context))

/-! ### Changing severities -/

/-- A name that no check has. -/
structure UnknownCheck where
  /-- The name. -/
  name : String
  deriving DecidableEq, Repr

/-- What is said of a name that no check has. -/
def UnknownCheck.message (error : UnknownCheck) : String :=
  "unknown check \x60" ++ error.name ++ "\x60"

/-- The checks with the severity of the first check of that name changed, if there is one. -/
def setSeverity? (name : String) (severity : Severity) : List Entry → Option (List Entry)
  | [] => none
  | entry :: rest =>
    if entry.name = name then some ({ entry with severity } :: rest)
    else (setSeverity? name severity rest).map (entry :: ·)

/-- **A severity cannot be changed when no check has the name.** -/
theorem setSeverity?_eq_none_iff {name : String} {severity : Severity} {entries : List Entry} :
    setSeverity? name severity entries = none ↔ ∀ entry ∈ entries, entry.name ≠ name := by
  induction entries with
  | nil => simp [setSeverity?]
  | cons entry rest ih =>
    rw [setSeverity?]
    split
    · next same => simp [same]
    · next other =>
      rw [Option.map_eq_none_iff, ih, List.forall_mem_cons]
      exact ⟨fun h => ⟨other, h⟩, fun h => h.2⟩

/-- **Changing a severity changes no name.** -/
theorem names_of_setSeverity? {name : String} {severity : Severity} {entries changed : List Entry}
    (h : setSeverity? name severity entries = some changed) :
    changed.map (·.name) = entries.map (·.name) := by
  induction entries generalizing changed with
  | nil => simp [setSeverity?] at h
  | cons entry rest ih =>
    rw [setSeverity?] at h
    split at h
    · rw [Option.some.injEq] at h
      subst h
      rfl
    · obtain ⟨more, found, rfl⟩ := Option.map_eq_some_iff.1 h
      rw [List.map_cons, List.map_cons, ih found]

/-- The checks with severities changed one after the other, up to the first name that no check has,
which is told beside them. -/
def changeSeverities (entries : List Entry) : List (String × Severity) →
    List Entry × Option UnknownCheck
  | [] => (entries, none)
  | (name, severity) :: rest =>
    match setSeverity? name severity entries with
    | some changed => changeSeverities changed rest
    | none => (entries, some ⟨name⟩)

/-- **Whatever is changed, and however far the changes go, the names stay.** -/
theorem names_changeSeverities (entries : List Entry) (changes : List (String × Severity)) :
    (changeSeverities entries changes).1.map (·.name) = entries.map (·.name) := by
  induction changes generalizing entries with
  | nil => rfl
  | cons change rest ih =>
    obtain ⟨name, severity⟩ := change
    rw [changeSeverities]
    split
    · next changed found => rw [ih, names_of_setSeverity? found]
    · rfl

/-- The checks with the severities of a table, and the least name that no check has. -/
def override (entries : List Entry) (severities : NameTable Severity) :
    List Entry × Option UnknownCheck :=
  changeSeverities entries severities.entries

/-- The report of all checks with the severities of a table. -/
def checkStory (context : Context) (severities : NameTable Severity) : Except UnknownCheck Report :=
  match override catalogue severities with
  | (entries, none) => .ok (run context entries)
  | (_, some unknown) => .error unknown

end Gamebook.Check
