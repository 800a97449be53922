import Gamebook.Proofs.Check.Acceptance
import Gamebook.Proofs.Story.History

/-!
# What severities decide

A table of severities is applied to the checks before they are made, and a check that is switched
off does not look for anything.  So a change of severities could be felt in three places: in what
the checked story is found guilty of, in the outcomes of other checks, and in the verdict.  It is
felt in the last alone.

## One table at a time

A table is applied name by name, and each name changes one check.  Said for all checks at once,
every check takes the severity that the table has under its name (`changeSeverities_eq`), up to the
first name that no check has.

## Two tables

Whether a check is flagged depends on what it looks for and on the story, and not on its severity
(`Entry.isFlagged`).  The severity only says what being flagged amounts to
(`Entry.status_evaluate_eq_fail_iff` and the lemmas beside it), so the numbers of a report count the
flagged checks by severity, and a report can be told from the flagged checks and the table
(`Report.Judges`).
-/

namespace Gamebook

namespace NameTable

variable {α : Type}

theorem findIn?_eq_none_iff {name : String} {entries : List (String × α)} :
    findIn? name entries = none ↔ name ∉ entries.map (·.1) := by
  induction entries with
  | nil => simp [findIn?]
  | cons entry rest ih =>
    rw [findIn?, List.map_cons, List.mem_cons, not_or]
    by_cases same : entry.1 = name
    · simp [same]
    · rw [if_neg same, ih]
      exact ⟨fun rest => ⟨Ne.symm same, rest⟩, fun h => h.2⟩

end NameTable

namespace Check

variable {context : Context} {entries : List Entry} {changes : List (String × Severity)}

/-! ### Applying a table -/

/-- The check with the severity that a list of changes has under its name, if it has one. -/
def Entry.under (changes : List (String × Severity)) (entry : Entry) : Entry :=
  { entry with severity := (NameTable.findIn? entry.name changes).getD entry.severity }

namespace Entry

@[simp] theorem under_nil (entry : Entry) : entry.under [] = entry := rfl

/-- A check is not changed under the name of another. -/
theorem under_of_notMem {entry : Entry} (other : entry.name ∉ changes.map (·.1)) :
    entry.under changes = entry := by
  rw [under, NameTable.findIn?_eq_none_iff.2 other]
  rfl

/-- **Changes of different names** come to the same made one after the other or at once. -/
theorem under_under_singleton {name : String} {severity : Severity}
    (fresh : name ∉ changes.map (·.1)) (entry : Entry) :
    (entry.under [(name, severity)]).under changes = entry.under ((name, severity) :: changes) := by
  by_cases same : name = entry.name
  · subst same
    rw [under_of_notMem (show (entry.under _).name ∉ _ from fresh)]
    simp [under, NameTable.findIn?]
  · simp [under, NameTable.findIn?, same]

end Entry

/-- **A severity is changed in the check of that name** and in no other. -/
theorem setSeverity?_of_mem (distinct : (entries.map (·.name)).Nodup) {name : String}
    (severity : Severity) (known : name ∈ entries.map (·.name)) :
    setSeverity? name severity entries = some (entries.map (Entry.under [(name, severity)])) := by
  induction entries with
  | nil => simp at known
  | cons entry rest ih =>
    obtain ⟨fresh, distinct⟩ := List.nodup_cons.1 distinct
    rw [setSeverity?, List.map_cons]
    by_cases same : entry.name = name
    · have unchanged : rest.map (Entry.under [(name, severity)]) = rest := by
        refine (List.map_congr_left fun other member => ?_).trans (List.map_id rest)
        have differs : other.name ≠ name := fun h =>
          fresh (List.mem_map.2 ⟨other, member, h.trans same.symm⟩)
        exact Entry.under_of_notMem (by simpa using differs)
      rw [if_pos same, unchanged]
      simp [Entry.under, NameTable.findIn?, same]
    · have known : name ∈ rest.map (·.name) :=
        (List.mem_cons.1 known).resolve_left (Ne.symm same)
      have unchanged : entry.under [(name, severity)] = entry :=
        Entry.under_of_notMem (by simpa using same)
      rw [if_neg same, ih distinct known, unchanged]
      rfl

/-- The change is made under the name of a check. -/
def namedIn (entries : List Entry) (change : String × Severity) : Bool :=
  decide (change.1 ∈ entries.map (·.name))

theorem namedIn_map_under (entries : List Entry) :
    namedIn (entries.map (Entry.under changes)) = namedIn entries := by
  funext change
  rw [namedIn, namedIn, List.map_map]
  rfl

/-- **What a list of changes comes to**: every check takes the severity that stands under its name
before the first name that no check has, and that name is told. -/
theorem changeSeverities_eq (distinct : (entries.map (·.name)).Nodup)
    (once : (changes.map (·.1)).Nodup) :
    changeSeverities entries changes =
      (entries.map (Entry.under (changes.takeWhile (namedIn entries))),
        (changes.find? fun change => !namedIn entries change).map fun change => ⟨change.1⟩) := by
  induction changes generalizing entries with
  | nil =>
    rw [changeSeverities, List.takeWhile_nil, List.map_congr_left fun entry _ => Entry.under_nil entry,
      List.map_id']
    rfl
  | cons change rest ih =>
    obtain ⟨name, severity⟩ := change
    obtain ⟨fresh, once⟩ := List.nodup_cons.1 once
    rw [changeSeverities]
    by_cases known : name ∈ entries.map (·.name)
    · have named : namedIn entries (name, severity) = true := decide_eq_true known
      have names : (entries.map (Entry.under [(name, severity)])).map (·.name) =
          entries.map (·.name) := by
        rw [List.map_map]
        rfl
      rw [setSeverity?_of_mem distinct severity known]
      show changeSeverities (entries.map (Entry.under [(name, severity)])) rest = _
      rw [ih (names ▸ distinct) once, namedIn_map_under, List.map_map,
        List.takeWhile_cons_of_pos named, List.find?_cons_of_neg (by simp [named])]
      refine congrArg (·, _) (List.map_congr_left fun entry _ => ?_)
      refine Entry.under_under_singleton (fun before => fresh ?_) entry
      obtain ⟨other, member, same⟩ := List.mem_map.1 before
      exact List.mem_map.2 ⟨other, (List.takeWhile_prefix _).subset member, same⟩
    · have unnamed : namedIn entries (name, severity) = false := decide_eq_false known
      have none : setSeverity? name severity entries = none :=
        setSeverity?_eq_none_iff.2 fun entry member same =>
          known (List.mem_map.2 ⟨entry, member, same⟩)
      rw [none, List.takeWhile_cons_of_neg (by simp [unnamed]),
        List.find?_cons_of_pos (by simp [unnamed]),
        List.map_congr_left fun entry _ => Entry.under_nil entry, List.map_id']
      rfl

theorem nodup_checkNames : checkNames.Nodup := by decide

/-- Every name of the table is that of a check. -/
def AllKnown (severities : NameTable Severity) : Prop :=
  ∀ name ∈ severities.names, name ∈ checkNames

instance (severities : NameTable Severity) : Decidable (AllKnown severities) :=
  inferInstanceAs (Decidable (∀ name ∈ _, _))

/-- **A table that only has names of checks** is applied to the end. -/
theorem override_of_known {severities : NameTable Severity} (distinct : (entries.map (·.name)).Nodup)
    (known : ∀ name ∈ severities.names, name ∈ entries.map (·.name)) :
    override entries severities = (entries.map (Entry.under severities.entries), none) := by
  have named : ∀ change ∈ severities.entries, namedIn entries change = true := fun change member =>
    decide_eq_true (known change.1 (List.mem_map_of_mem member))
  have none : (severities.entries.find? fun change => !namedIn entries change) = none :=
    List.find?_eq_none.2 fun change member => by simp [named change member]
  rw [override, changeSeverities_eq distinct severities.nodup_names,
    List.takeWhile_eq_self_iff.2 named, none]
  rfl

/-- With a table that only has names of checks, the checks are made with its severities. -/
theorem checkStory_of_allKnown (context : Context) {severities : NameTable Severity}
    (known : AllKnown severities) :
    checkStory context severities =
      .ok (run context (catalogue.map (Entry.under severities.entries))) := by
  rw [checkStory, override_of_known nodup_checkNames known]

/-! ### Outcomes -/

/-- The severity that a check has under a table. -/
def severityIn (severities : NameTable Severity) (entry : Entry) : Severity :=
  (severities.find? entry.name).getD entry.severity

namespace Entry

/-- The check is flagged by what there is to be found in the story, whether or not it is made. -/
def isFlagged (context : Context) (entry : Entry) : Bool :=
  entry.flagged (entry.probe.offenders context)

theorem isFlagged_iff {entry : Entry} :
    entry.isFlagged context = true ↔
      if entry.flaggedByNone then entry.probe.offenders context = []
      else entry.probe.offenders context ≠ [] := by
  rw [isFlagged, flagged]
  cases entry.flaggedByNone <;> simp

theorem status_evaluate_of_on {entry : Entry} (on : entry.severity ≠ .off) :
    (entry.evaluate context).status = statusOf (entry.isFlagged context) entry.severity := by
  show statusOf (entry.flagged (entry.evaluate context).offenders) _ = _
  rw [offenders_evaluate on]
  rfl

/-- **A check that is switched off** is skipped and names nothing. -/
theorem evaluate_of_off {entry : Entry} (off : entry.severity = .off) :
    (entry.evaluate context).status = .skipped ∧ (entry.evaluate context).offenders = [] := by
  simp [evaluate, statusOf, off]

theorem status_evaluate_eq_warn_iff {entry : Entry} :
    (entry.evaluate context).status = .warn ↔
      entry.severity = .warning ∧ entry.isFlagged context = true := by
  by_cases off : entry.severity = .off
  · simp [evaluate_of_off off, off]
  · rw [status_evaluate_of_on off]
    cases h : entry.severity <;> cases entry.isFlagged context <;> simp_all [statusOf]

theorem status_evaluate_eq_skipped_iff {entry : Entry} :
    (entry.evaluate context).status = .skipped ↔ entry.severity = .off := by
  by_cases off : entry.severity = .off
  · simp [evaluate_of_off off, off]
  · rw [status_evaluate_of_on off]
    cases h : entry.severity <;> cases entry.isFlagged context <;> simp_all [statusOf]

/-- The outcome of a check tells its severity apart from the rest: two checks that differ in nothing
else have one outcome if they have one severity. -/
theorem evaluate_under_eq {entry : Entry} {others : List (String × Severity)}
    (same : (entry.under changes).severity = (entry.under others).severity) :
    (entry.under changes).evaluate context = (entry.under others).evaluate context := by
  have equal : entry.under changes = entry.under others := by
    rw [under, under, Entry.mk.injEq]
    exact ⟨rfl, rfl, same, rfl, rfl⟩
  rw [equal]

end Entry

/-! ### Reports -/

theorem exists_of_mem_checks {outcome : Outcome}
    (made : outcome ∈ (run context (entries.map (Entry.under changes))).checks) :
    ∃ entry ∈ entries, (entry.under changes).evaluate context = outcome := by
  obtain ⟨changed, there, rfl⟩ := List.mem_map.1 made
  obtain ⟨entry, member, rfl⟩ := List.mem_map.1 there
  exact ⟨entry, member, rfl⟩

/-- An outcome with the name of a check is the outcome of that check. -/
theorem eq_evaluate_of_name_eq (distinct : (entries.map (·.name)).Nodup) {outcome : Outcome}
    (made : outcome ∈ (run context (entries.map (Entry.under changes))).checks) {entry : Entry}
    (member : entry ∈ entries) (same : outcome.name = entry.name) :
    outcome = (entry.under changes).evaluate context := by
  obtain ⟨other, there, rfl⟩ := exists_of_mem_checks made
  have equal : other = entry := List.inj_on_of_nodup_map distinct there member same
  rw [equal]

/-- The outcome of the check of that name. -/
def Report.outcome? (report : Report) (name : String) : Option Outcome :=
  report.checks.find? fun outcome => outcome.name = name

/-- **Under the name of a check its outcome is found.** -/
theorem outcome?_run (distinct : (entries.map (·.name)).Nodup) {entry : Entry}
    (member : entry ∈ entries) :
    (run context (entries.map (Entry.under changes))).outcome? entry.name =
      some ((entry.under changes).evaluate context) := by
  have made : (entry.under changes).evaluate context ∈
      (run context (entries.map (Entry.under changes))).checks :=
    List.mem_map_of_mem (List.mem_map_of_mem member)
  rw [Report.outcome?]
  cases found : (run context (entries.map (Entry.under changes))).checks.find?
      fun outcome => outcome.name = entry.name with
  | none => exact absurd (decide_eq_true rfl) (List.find?_eq_none.1 found _ made)
  | some outcome =>
    have same : outcome.name = entry.name := by simpa using List.find?_some found
    rw [eq_evaluate_of_name_eq distinct (List.mem_of_find?_eq_some found) member same]

/-- A table with which there is a report only has names of checks. -/
theorem allKnown_of_checkStory_eq_ok {severities : NameTable Severity} {report : Report}
    (made : checkStory context severities = .ok report) : AllKnown severities := by
  intro name member
  by_contra unknown
  obtain ⟨change, there, rfl⟩ := List.mem_map.1 member
  rw [checkStory, override, changeSeverities_eq nodup_checkNames severities.nodup_names] at made
  cases found : severities.entries.find? fun change => !namedIn catalogue change with
  | none =>
    have named : namedIn catalogue change = true := by simpa using List.find?_eq_none.1 found _ there
    exact unknown (of_decide_eq_true named)
  | some first =>
    rw [found] at made
    cases made

/-- **Every check has an outcome in a report**, and unless it is switched off the outcome names what
there is to be found. -/
theorem exists_outcome {severities : NameTable Severity} {report : Report}
    (made : checkStory context severities = .ok report) {entry : Entry} (member : entry ∈ catalogue) :
    ∃ outcome ∈ report.checks, report.outcome? entry.name = some outcome ∧
      (outcome.severity ≠ .off → outcome.offenders = entry.probe.offenders context) := by
  rw [checkStory_of_allKnown context (allKnown_of_checkStory_eq_ok made)] at made
  obtain rfl := Except.ok.inj made
  exact ⟨_, List.mem_map_of_mem (List.mem_map_of_mem member), outcome?_run nodup_checkNames member,
    fun on => offenders_evaluate on⟩

theorem failedChecks_run (context : Context) (entries : List Entry) :
    (run context entries).failedChecks =
      (entries.filter fun entry => entry.severity == .required && entry.isFlagged context).map
        (·.name) := by
  show (((entries.map (Entry.evaluate context)).filter fun outcome => outcome.status == .fail).map
    (·.name)) = _
  rw [List.filter_map, List.map_map]
  refine congrArg (List.map _) (List.filter_congr fun entry _ => ?_)
  rw [Function.comp_apply, Bool.eq_iff_iff, beq_iff_eq, Entry.status_evaluate_eq_fail_iff,
    Bool.and_eq_true, beq_iff_eq]
  rfl

theorem failureCount_run (context : Context) (entries : List Entry) :
    (run context entries).summary.failureCount = (run context entries).failedChecks.length := by
  rw [Report.failedChecks, List.length_map, ← List.countP_eq_length_filter]
  rfl

theorem warningCount_run (context : Context) (entries : List Entry) :
    (run context entries).summary.warningCount =
      entries.countP fun entry => entry.severity == .warning && entry.isFlagged context := by
  show ((entries.map (Entry.evaluate context)).countP fun outcome => outcome.status == .warn) = _
  rw [List.countP_map]
  refine List.countP_congr fun entry _ => ?_
  rw [Function.comp_apply, beq_iff_eq, Entry.status_evaluate_eq_warn_iff, Bool.and_eq_true,
    beq_iff_eq]

theorem skippedCount_run (context : Context) (entries : List Entry) :
    (run context entries).summary.skippedCount =
      entries.countP fun entry => entry.severity == .off := by
  show ((entries.map (Entry.evaluate context)).countP fun outcome => outcome.status == .skipped) = _
  rw [List.countP_map]
  refine List.countP_congr fun entry _ => ?_
  rw [Function.comp_apply, beq_iff_eq, Entry.status_evaluate_eq_skipped_iff, beq_iff_eq]

/-- What a report says, given which checks are flagged and which severities they have. -/
structure Report.Judges (report : Report) (flagged : Entry → Bool)
    (severities : NameTable Severity) : Prop where
  /-- The outcomes are those of the checks, in the order of the catalogue. -/
  checks_eq : (report.checks.map fun outcome => (outcome.name, outcome.label, outcome.severity)) =
    catalogue.map fun entry => (entry.name, entry.label, severityIn severities entry)
  /-- What is switched off is skipped and names nothing. -/
  skipped : ∀ outcome ∈ report.checks, outcome.severity = .off →
    outcome.status = .skipped ∧ outcome.offenders = []
  /-- What is not switched off is flagged by the offenders that it names. -/
  flagged_iff : ∀ entry ∈ catalogue, ∀ outcome ∈ report.checks, outcome.name = entry.name →
    outcome.severity ≠ .off →
      (flagged entry = true ↔
        if entry.flaggedByNone then outcome.offenders = [] else outcome.offenders ≠ [])
  /-- A flagged check rejects the story if it is required. -/
  accepted_iff : report.accepted = true ↔
    ∀ entry ∈ catalogue, severityIn severities entry = .required → flagged entry = false
  /-- The checks that failed are those that reject the story. -/
  failedChecks_eq : report.failedChecks =
    (catalogue.filter fun entry => severityIn severities entry == .required && flagged entry).map
      (·.name)
  failureCount_eq : report.summary.failureCount = report.failedChecks.length
  warningCount_eq : report.summary.warningCount =
    catalogue.countP fun entry => severityIn severities entry == .warning && flagged entry
  skippedCount_eq : report.summary.skippedCount =
    catalogue.countP fun entry => severityIn severities entry == .off

/-- **A report can be told from the flagged checks and the severities.** -/
theorem judges_run (context : Context) (severities : NameTable Severity) :
    (run context (catalogue.map (Entry.under severities.entries))).Judges
      (Entry.isFlagged context) severities where
  checks_eq := by
    show ((catalogue.map (Entry.under severities.entries)).map (Entry.evaluate context)).map _ = _
    rw [List.map_map, List.map_map]
    rfl
  skipped := by
    intro outcome made off
    obtain ⟨entry, -, rfl⟩ := List.mem_map.1 made
    exact Entry.evaluate_of_off off
  flagged_iff := by
    intro entry member outcome made same on
    obtain rfl := eq_evaluate_of_name_eq nodup_checkNames made member same
    rw [offenders_evaluate on]
    exact Entry.isFlagged_iff
  accepted_iff := by
    rw [accepted_run_iff, List.forall_mem_map]
    rfl
  failedChecks_eq := by
    rw [failedChecks_run, List.filter_map, List.map_map]
    rfl
  failureCount_eq := failureCount_run _ _
  warningCount_eq := by
    rw [warningCount_run, List.countP_map]
    rfl
  skippedCount_eq := by
    rw [skippedCount_run, List.countP_map]
    rfl

/-- Two reports say the same of every check as far as its severities allow. -/
def Report.AgreesWith (report other : Report) : Prop :=
  ∀ one ∈ report.checks, ∀ two ∈ other.checks, one.name = two.name →
    (one.severity = two.severity → one = two) ∧
      (one.severity ≠ .off → two.severity ≠ .off → one.offenders = two.offenders)

/-- **What a check says does not depend on the severities of the others.** -/
theorem agreesWith_run (context : Context) (first second : List (String × Severity)) :
    (run context (catalogue.map (Entry.under first))).AgreesWith
      (run context (catalogue.map (Entry.under second))) := by
  intro one made two made' same
  obtain ⟨entry, member, rfl⟩ := exists_of_mem_checks made
  obtain rfl := eq_evaluate_of_name_eq nodup_checkNames made' member same.symm
  refine ⟨fun severity => Entry.evaluate_under_eq severity, fun on on' => ?_⟩
  rw [offenders_evaluate on, offenders_evaluate on']
  rfl

/-! ### Stronger and weaker severities -/

/-- How much a severity makes of a finding. -/
def Severity.weight : Severity → Nat
  | off => 0
  | warning => 1
  | required => 2

theorem Severity.eq_required_of_weight_le {weaker stronger : Severity}
    (le : weaker.weight ≤ stronger.weight) (required : weaker = .required) :
    stronger = .required := by
  subst required
  cases stronger <;> simp [weight] at le ⊢

/-- **Weaker severities reject no story** that stronger ones accept. -/
theorem Report.Judges.accepted_of_weaker {report other : Report} {flagged : Entry → Bool}
    {first second : NameTable Severity} (judges : report.Judges flagged first)
    (judges' : other.Judges flagged second)
    (weaker : ∀ entry ∈ catalogue,
      (severityIn second entry).weight ≤ (severityIn first entry).weight)
    (accepted : report.accepted = true) : other.accepted = true :=
  judges'.accepted_iff.2 fun entry member required =>
    judges.accepted_iff.1 accepted entry member
      (Severity.eq_required_of_weight_le (weaker entry member) required)

/-- **Severities decide the verdict and nothing else.**  Whether a check is flagged is a matter of
the story and of what the check looks for.  With whatever table of known names, there is a report,
and it can be told from the flagged checks and the table; with two tables, there are two that say
the same of every check as far as its severities allow, and if the second makes no severity stronger
it accepts what the first accepts. -/
theorem severities_decide_verdict (context : Context) :
    ∃ flagged : Entry → Bool,
      (∀ entry, flagged entry = true ↔
        if entry.flaggedByNone then entry.probe.offenders context = []
        else entry.probe.offenders context ≠ []) ∧
      ∀ first second : NameTable Severity, AllKnown first → AllKnown second →
        ∃ report other, checkStory context first = .ok report ∧
          checkStory context second = .ok other ∧
          report.Judges flagged first ∧ other.Judges flagged second ∧ report.AgreesWith other ∧
          ((∀ entry ∈ catalogue,
              (severityIn second entry).weight ≤ (severityIn first entry).weight) →
            report.accepted = true → other.accepted = true) := by
  refine ⟨Entry.isFlagged context, fun entry => Entry.isFlagged_iff, ?_⟩
  intro first second known known'
  have judges := judges_run context first
  have judges' := judges_run context second
  exact ⟨_, _, checkStory_of_allKnown context known, checkStory_of_allKnown context known', judges,
    judges', agreesWith_run context _ _, judges.accepted_of_weaker judges'⟩

/-- A table that makes much of a single choice, and one that makes nothing of it. -/
def strictTable : NameTable Severity := .ofList [("single_choice", .required)]

@[inherit_doc strictTable]
def laxTable : NameTable Severity := .ofList [("single_choice", .off), ("abnormal_paths", .off)]

theorem severities_decide_gateAndKeep :
    AllKnown strictTable ∧ AllKnown laxTable ∧
      ∃ report other,
        checkStory ⟨.ofInsertions gateAndKeep, plainRules, 1.0⟩ strictTable = .ok report ∧
        checkStory ⟨.ofInsertions gateAndKeep, plainRules, 1.0⟩ laxTable = .ok other ∧
        report.AgreesWith other ∧ report.accepted = false ∧ other.summary.skippedCount = 2 := by
  have strict : AllKnown strictTable := by decide
  have lax : AllKnown laxTable := by decide
  obtain ⟨flagged, flagged_iff, reports⟩ :=
    severities_decide_verdict ⟨.ofInsertions gateAndKeep, plainRules, 1.0⟩
  obtain ⟨report, other, made, made', judges, judges', agrees, -⟩ := reports _ _ strict lax
  have single : .warning "single_choice" "parts with a single choice" (.fault .singleChoice)
      ∈ catalogue := by decide
  refine ⟨strict, lax, report, other, made, made', agrees, ?_, ?_⟩
  · refine Bool.eq_false_iff.2 fun accepted => ?_
    have passed := judges.accepted_iff.1 accepted _ single (by decide)
    have found := (flagged_iff (.warning "single_choice" "parts with a single choice"
      (.fault .singleChoice))).2 (by decide)
    rw [passed] at found
    exact absurd found (by decide)
  · rw [judges'.skippedCount_eq]
    decide

end Check

end Gamebook
