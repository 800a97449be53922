import Gamebook.Proofs.Check.Severity
import Gamebook.Settings.Load

/-!
# Changing severities by name

The severities of a table are changed one after the other, and the first name that no check has puts an
end to it.  The names of a table increase, so how far the changes go is said by that name alone: what
stands under a smaller name is changed, and nothing else is (`findIn?_front`).  The name that ends them is
the least that no check has (`LeastUnknown`).

## Settings

A settings file is refused before any check is made if it sets the severity of a check that there is not.
It is looked for in another way, name by name in the list of all names; both ways come upon the same name
(`unknownName?_eq`), so settings that were loaded never fail to be applied.
-/

namespace Gamebook

namespace NameTable

variable {α : Type} {t : NameTable α} {front back : List (String × α)} {entry : String × α}

/-- **What stands before an entry** of a table is what the table has under smaller names. -/
theorem findIn?_front (split : t.entries = front ++ entry :: back) (name : String) :
    findIn? name front = if name < entry.1 then t.find? name else none := by
  have increasing := t.increasing
  rw [split] at increasing
  obtain ⟨before, from_, below⟩ := List.pairwise_append.1 increasing
  obtain ⟨after, -⟩ := List.pairwise_cons.1 from_
  split
  · next less =>
    ext value
    rw [find?_eq_some_iff, split, List.mem_append]
    constructor
    · exact fun found => .inl (mem_of_findIn?_eq_some found)
    · rintro (member | member)
      · exact findIn?_of_mem before member
      · rcases List.mem_cons.1 member with rfl | member
        · exact absurd less (String.lt_irrefl _)
        · exact absurd less (String.lt_asymm (after _ member))
  · next notLess =>
    refine findIn?_eq_none_iff.2 fun member => notLess ?_
    obtain ⟨other, there, rfl⟩ := List.mem_map.1 member
    exact below other there entry List.mem_cons_self

end NameTable

namespace Check

variable {entries : List Entry} {severities : NameTable Severity}

/-! ### The least unknown name -/

/-- The name is the least in the table that none of the checks has. -/
structure LeastUnknown (entries : List Entry) (severities : NameTable Severity) (name : String) :
    Prop where
  /-- The table has the name. -/
  mem : name ∈ severities.names
  /-- No check has it. -/
  unknown : name ∉ entries.map (·.name)
  /-- Every name in the table that no check has is at least as large. -/
  least : ∀ other ∈ severities.names, other ∉ entries.map (·.name) → name ≤ other

/-- A name that no check has puts an end to the changes somewhere. -/
theorem exists_unnamed {name : String} (member : name ∈ severities.names)
    (unknown : name ∉ entries.map (·.name)) :
    ∃ change, (severities.entries.find? fun change => !namedIn entries change) = some change := by
  obtain ⟨change, there, rfl⟩ := List.mem_map.1 member
  refine Option.isSome_iff_exists.1 (List.find?_isSome.2 ⟨change, there, ?_⟩)
  simp [namedIn, unknown]

/-- **Where the changes end** is the least unknown name. -/
theorem leastUnknown_of_find? {change : String × Severity}
    (found : (severities.entries.find? fun change => !namedIn entries change) = some change) :
    LeastUnknown entries severities change.1 := by
  obtain ⟨unnamed, front, back, split, named⟩ := List.find?_eq_some_iff_append.1 found
  refine ⟨List.mem_map_of_mem (List.mem_of_find?_eq_some found), ?_, fun other member unknown => ?_⟩
  · rw [Bool.not_eq_true'] at unnamed
    exact of_decide_eq_false unnamed
  · have increasing := severities.increasing
    rw [split] at increasing
    obtain ⟨after, -⟩ := List.pairwise_cons.1 (List.pairwise_append.1 increasing).2.1
    obtain ⟨here, there, rfl⟩ := List.mem_map.1 member
    rw [split] at there
    rcases List.mem_append.1 there with before | there
    · -- a name before the end is that of a check
      have known := named here before
      rw [Bool.not_not] at known
      exact absurd (of_decide_eq_true known) unknown
    · rcases List.mem_cons.1 there with rfl | behind
      · exact String.le_refl _
      · exact Std.le_of_lt (after here behind)

/-! ### What is changed -/

/-- **A table with a name that no check has** is applied up to the least of these names. -/
theorem override_of_unknown (distinct : (entries.map (·.name)).Nodup) {name : String}
    (member : name ∈ severities.names) (unknown : name ∉ entries.map (·.name)) :
    ∃ least, LeastUnknown entries severities least ∧
      override entries severities =
        (entries.map fun entry =>
          if entry.name < least then { entry with severity := severityIn severities entry } else entry,
        some ⟨least⟩) := by
  obtain ⟨change, found⟩ := exists_unnamed member unknown
  refine ⟨change.1, leastUnknown_of_find? found, ?_⟩
  obtain ⟨unnamed, front, back, split, named⟩ := List.find?_eq_some_iff_append.1 found
  have before : severities.entries.takeWhile (namedIn entries) = front := by
    rw [split, List.takeWhile_append_of_pos (by simpa using named),
      List.takeWhile_cons_of_neg (by simpa using unnamed), List.append_nil]
  rw [override, changeSeverities_eq distinct severities.nodup_names, before, found]
  refine congrArg (·, _) (List.map_congr_left fun entry _ => ?_)
  rw [Entry.under, NameTable.findIn?_front split]
  split
  · rfl
  · rfl

/-! ### Settings -/

/-- **Settings are searched for the name** at which applying their severities would end. -/
theorem unknownName?_eq (settings : Settings) :
    settings.unknownName? = (override catalogue settings.severities).2.map (·.name) := by
  rw [override, changeSeverities_eq nodup_checkNames settings.severities.nodup_names,
    Settings.unknownName?, NameTable.names, List.find?_map, Option.map_map]
  have same : ((fun name => !checkNames.contains name) ∘ fun change : String × Severity => change.1) =
      fun change => !namedIn catalogue change := by
    funext change
    rw [Function.comp_apply, namedIn, List.contains_eq_mem]
    rfl
  rw [same]
  rfl

theorem parse_eq_unknownCheck_iff {text path name : String} :
    Settings.parse text path = .error (.unknownCheck name) ↔
      ∃ settings, Settings.ofText? text = some settings ∧
        (override catalogue settings.severities).2 = some ⟨name⟩ := by
  rw [Settings.parse]
  cases Settings.ofText? text with
  | none => simp
  | some settings =>
    simp only [Option.some.injEq, exists_eq_left', unknownName?_eq]
    cases (override catalogue settings.severities).2 with
    | none => simp
    | some unknown =>
      obtain ⟨other⟩ := unknown
      simp

/-- Settings that were read from a text can be applied. -/
theorem override_of_parse_eq_ok {text path : String} {settings : Settings}
    (parsed : Settings.parse text path = .ok settings) :
    (override catalogue settings.severities).2 = none := by
  rw [Settings.parse] at parsed
  cases read : Settings.ofText? text with
  | none => simp [read] at parsed
  | some found =>
    cases unknown : found.unknownName? with
    | some name => simp [read, unknown] at parsed
    | none =>
      simp only [read, unknown, Except.ok.injEq] at parsed
      subst parsed
      rwa [unknownName?_eq, Option.map_eq_none_iff] at unknown

theorem override_of_readFile_eq_ok {tree : FileTree} {path : String} {settings : Settings}
    (read : Settings.readFile tree path = .ok settings) :
    (override catalogue settings.severities).2 = none := by
  rw [Settings.readFile] at read
  cases text : tree.readText path with
  | error failure => simp [text] at read
  | ok content =>
    rw [text] at read
    exact override_of_parse_eq_ok read

/-- **Settings that were loaded can be applied.** -/
theorem override_of_load_eq_ok {tree : FileTree} {path? : Option String} {settings : Settings}
    (loaded : Settings.load tree path? = .ok settings) :
    (override catalogue settings.severities).2 = none := by
  cases path? with
  | some path => exact override_of_readFile_eq_ok loaded
  | none =>
    rw [Settings.load] at loaded
    split at loaded
    · exact override_of_readFile_eq_ok loaded
    · obtain rfl := Except.ok.inj loaded
      rfl

theorem exists_checkStory_of_load (context : Context) {tree : FileTree} {path? : Option String}
    {settings : Settings} (loaded : Settings.load tree path? = .ok settings) :
    ∃ report, checkStory context settings.severities = .ok report := by
  have applied := override_of_load_eq_ok loaded
  rw [checkStory]
  generalize override catalogue settings.severities = result at applied
  obtain ⟨entries, unknown⟩ := result
  obtain rfl : unknown = none := applied
  exact ⟨_, rfl⟩

/-- **Changing severities by name is exact, and settings foresee how it ends.**  If every name of a table
is that of a check, each of these checks takes the severity under its name.  Otherwise the least name that
no check has is told, the checks of smaller names have taken theirs, and all else is as it was.

A settings file is refused for an unknown check exactly when its severities, applied to all checks, end at
that name, so with settings that were loaded there is a report on every story. -/
theorem override_exact_and_foreseen :
    (∀ entries : List Entry, (entries.map (·.name)).Nodup → ∀ severities : NameTable Severity,
      ((∀ name ∈ severities.names, name ∈ entries.map (·.name)) →
        override entries severities =
          (entries.map fun entry => { entry with severity := severityIn severities entry }, none)) ∧
      ((∃ name ∈ severities.names, name ∉ entries.map (·.name)) →
        ∃ least, LeastUnknown entries severities least ∧
          override entries severities =
            (entries.map fun entry =>
              if entry.name < least then { entry with severity := severityIn severities entry }
              else entry,
            some ⟨least⟩))) ∧
      (∀ text path name, Settings.parse text path = .error (.unknownCheck name) ↔
        ∃ settings, Settings.ofText? text = some settings ∧
          (override catalogue settings.severities).2 = some ⟨name⟩) ∧
      ∀ (context : Context) tree path? settings, Settings.load tree path? = .ok settings →
        ∃ report, checkStory context settings.severities = .ok report := by
  refine ⟨fun entries distinct severities => ⟨override_of_known distinct, ?_⟩,
    fun text path name => parse_eq_unknownCheck_iff,
    fun context tree path? settings loaded => exists_checkStory_of_load context loaded⟩
  rintro ⟨name, member, unknown⟩
  exact override_of_unknown distinct member unknown

/-- Two of the checks. -/
def fewChecks : List Entry :=
  [.required "empty_nodes" "parts without text" (.fault .emptyNodes),
   .required "dead_ends" "parts with no choices" (.fault .deadEnds)]

/-- A table for one of the two. -/
def deadEndsAllowed : NameTable Severity := .ofList [("dead_ends", .warning)]

/-- A table for both, with two more names that no check has. -/
def moreNames : NameTable Severity :=
  .ofList [("exits", .off), ("dead_ends", .off), ("empty_nodes", .warning), ("easy_nodes", .off)]

/-- Files with settings for dead ends. -/
def deadEndsOff : FileTree where
  root := .directory [("branchtale.toml", .file "[checks]\ndead_ends = \"off\"\n".toUTF8)]
  workingDirectory := []

theorem override_fewChecks :
    override fewChecks deadEndsAllowed =
        ([.required "empty_nodes" "parts without text" (.fault .emptyNodes),
          .warning "dead_ends" "parts with no choices" (.fault .deadEnds)], none) ∧
      (override fewChecks moreNames).2 = some ⟨"easy_nodes"⟩ ∧
      (override fewChecks moreNames).1.map (·.severity) = [.required, .off] ∧
      Settings.parse "[checks]\neasy_nodes = \"off\"\n" "usual" =
        .error (.unknownCheck "easy_nodes") ∧
      ∃ settings, Settings.load deadEndsOff none = .ok settings ∧
        settings.severities.entries = [("dead_ends", .off)] ∧
        ∀ context, ∃ report, checkStory context settings.severities = .ok report := by
  obtain ⟨applies, refused, loaded⟩ := override_exact_and_foreseen
  have distinct : (fewChecks.map (·.name)).Nodup := by decide
  obtain ⟨known, -⟩ := applies fewChecks distinct deadEndsAllowed
  obtain ⟨-, unknown⟩ := applies fewChecks distinct moreNames
  obtain ⟨name, least, applied⟩ := unknown (by decide)
  have name_eq : name = "easy_nodes" := by
    have unnamed : ∀ other ∈ moreNames.names, other ∉ fewChecks.map (·.name) →
        other ≤ "easy_nodes" → other = "easy_nodes" := by decide
    exact unnamed name least.mem least.unknown (least.least "easy_nodes" (by decide) (by decide))
  subst name_eq
  have text : (Settings.ofText? "[checks]\neasy_nodes = \"off\"\n").map (·.severities) =
      some (.ofList [("easy_nodes", .off)]) := by decide +kernel
  obtain ⟨settings, read, severities⟩ := Option.map_eq_some_iff.1 text
  have file : (Settings.load deadEndsOff none).toOption.map (·.severities.entries) =
      some [("dead_ends", .off)] := by decide +kernel
  obtain ⟨settings', found, severities'⟩ := Option.map_eq_some_iff.1 file
  have there : Settings.load deadEndsOff none = .ok settings' := by
    cases result : Settings.load deadEndsOff none with
    | error refusal => simp [result, Except.toOption] at found
    | ok other => simpa [result, Except.toOption] using found
  refine ⟨(known (by decide)).trans (by decide), by rw [applied], ?_,
    (refused _ _ _).2 ⟨settings, read, ?_⟩, settings', there, severities',
    fun context => loaded context _ _ settings' there⟩
  · rw [applied]
    decide
  · rw [severities]
    decide

end Check

end Gamebook
