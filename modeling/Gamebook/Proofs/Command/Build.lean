import Gamebook.Proofs.Command.Loading
import Gamebook.Proofs.Export.Atomic

/-!
# Building and checking agree

Building a story is checking it and then, if the report accepts it, writing its document.  A run of
it ends in one of four ways: there is no report, the report rejects the story, the document cannot
be written, or it is written (`Building`).  Everything that is promised of building is a look at
these four.

Files change in the last of them alone, and there is one file then that is new or has other bytes,
which is the document (`Exported`).  The answers differ from those of checking in what is said of
the document, and in how the program ends if the document cannot be written (`Follows`).

## What the medium may do

Writing takes several operations, and the medium may refuse any of them: the temporary file may be there
already when it turns out that its bytes cannot be written, or cannot be made to last.  This is the third
way to end, like a path that leads to a directory, and the file is removed again.  For that the medium has
to allow that files are removed (`Medium.Removes`); nothing else is asked of it.
-/

namespace Gamebook.Command

open Gamebook.Analysis Gamebook.Check Gamebook.Export Gamebook.FileTree Gamebook.Story

variable {medium : Medium} {tree : FileTree} {stamp : String} {options : Options}

/-! ### How building ends -/

/-- The path that the document is written to. -/
def outputPath (options : Options) (loaded : Loaded) : String :=
  options.out?.getD loaded.settings.output

/-- The ways in which building a story can end. -/
inductive Building (medium : Medium) (tree : FileTree) (stamp : String) (options : Options) :
    FileTree × Answer → Prop where
  /-- There is no report on the story. -/
  | stopped (trouble : Trouble) (loading : loadReport tree options = .error trouble) :
      Building medium tree stamp options (tree, .ofTrouble trouble)
  /-- The report rejects the story. -/
  | rejected (loaded : Loaded) (report : Report)
      (loading : loadReport tree options = .ok (loaded, report)) (verdict : report.accepted = false) :
      Building medium tree stamp options (tree, buildAnswer options loaded report .null rejectedLine)
  /-- The document of an accepted story cannot be written. -/
  | unwritten (loaded : Loaded) (report : Report) (after : FileTree) (error : WriteError)
      (loading : loadReport tree options = .ok (loaded, report)) (verdict : report.accepted = true)
      (writing : writeDocumentOn medium tree stamp (outputPath options loaded) loaded.graph =
        (after, .error error)) :
      Building medium tree stamp options (after, .ofTrouble (.output error))
  /-- The document of an accepted story is written. -/
  | written (loaded : Loaded) (report : Report) (after : FileTree) (written : Written)
      (loading : loadReport tree options = .ok (loaded, report)) (verdict : report.accepted = true)
      (writing : writeDocumentOn medium tree stamp (outputPath options loaded) loaded.graph =
        (after, .ok written)) :
      Building medium tree stamp options
        (after, buildAnswer options loaded report (writtenValue written) (writtenLine written))

theorem build_of_error {loaded : Loaded} {report : Report} {after : FileTree} {error : WriteError}
    (loading : loadReport tree options = .ok (loaded, report)) (verdict : report.accepted = true)
    (writing : writeDocumentOn medium tree stamp (outputPath options loaded) loaded.graph =
      (after, .error error)) :
    build medium tree stamp options = (after, .ofTrouble (.output error)) := by
  rw [outputPath] at writing
  rw [build, loading]
  simp only [verdict, if_true, writing]

theorem build_of_ok {loaded : Loaded} {report : Report} {after : FileTree} {written : Written}
    (loading : loadReport tree options = .ok (loaded, report)) (verdict : report.accepted = true)
    (writing : writeDocumentOn medium tree stamp (outputPath options loaded) loaded.graph =
      (after, .ok written)) :
    build medium tree stamp options =
      (after, buildAnswer options loaded report (writtenValue written) (writtenLine written)) := by
  rw [outputPath] at writing
  rw [build, loading]
  simp only [verdict, if_true, writing]

/-- **Building ends in one of these ways.** -/
theorem building (medium : Medium) (tree : FileTree) (stamp : String) (options : Options) :
    Building medium tree stamp options (build medium tree stamp options) := by
  cases loading : loadReport tree options with
  | error trouble =>
    rw [build, loading]
    exact .stopped trouble loading
  | ok pair =>
    obtain ⟨loaded, report⟩ := pair
    cases verdict : report.accepted with
    | false =>
      rw [build, loading]
      simp only [verdict]
      exact .rejected loaded report loading verdict
    | true =>
      cases writing : writeDocumentOn medium tree stamp (outputPath options loaded) loaded.graph with
      | mk after result =>
        cases result with
        | error error =>
          rw [build_of_error loading verdict writing]
          exact .unwritten loaded report after error loading verdict writing
        | ok written =>
          rw [build_of_ok loading verdict writing]
          exact .written loaded report after written loading verdict writing

/-! ### What changes -/

/-- The story was accepted, and the only file that is new or has other bytes is its document, which
the output path leads to. -/
structure Exported (tree after : FileTree) (options : Options) (loaded : Loaded) (report : Report)
    (location : Location) : Prop where
  /-- The story and the report on it are those that are loaded. -/
  loading : loadReport tree options = .ok (loaded, report)
  /-- The report accepts the story. -/
  accepted : report.accepted = true
  /-- The output path leads to the location. -/
  located : after.locate (outputPath options loaded) = .ok location
  /-- The document is there. -/
  content : after.fileAt? location = some (renderDocument loaded.graph).toUTF8
  /-- There is no other change. -/
  only : ∀ changed ∈ changedFiles tree after, changed = (location, (renderDocument loaded.graph).toUTF8)

/-- Files change only with the success of building a story. -/
structure Guarded (medium : Medium) (tree : FileTree) (stamp : String) (options : Options)
    (built : FileTree × Answer) : Prop where
  /-- Without success no file is new or has other bytes. -/
  failure : built.2.exitCode ≠ 0 → changedFiles tree built.1 = []
  /-- With success the document is the only such file. -/
  success : built.2.exitCode = 0 →
    ∃ loaded report location, Exported tree built.1 options loaded report location
  /-- If the temporary name is fresh, all other files are still there. -/
  kept : ∀ loaded report, loadReport tree options = .ok (loaded, report) →
    FreshOn medium tree stamp (outputPath options loaded) → ∀ location,
      built.1.fileAt? location = tree.fileAt? location ∨
        built.2.exitCode = 0 ∧ built.1.locate (outputPath options loaded) = .ok location

theorem changedFiles_self (distinct : tree.Distinct) : changedFiles tree tree = [] :=
  (changedFiles_eq_nil_iff distinct).2 fun _ _ => id

theorem Trouble.exitCode_ne_zero (trouble : Trouble) : trouble.exitCode ≠ 0 := by
  cases trouble <;> simp [exitCode]

theorem reportExit_eq_zero_iff {report : Report} : reportExit report = 0 ↔ report.accepted = true := by
  rw [reportExit]
  split <;> simp [*]

/-- **However building ends**, files change only with its success. -/
theorem Building.guarded (removes : medium.Removes) (distinct : tree.Distinct)
    {built : FileTree × Answer} (building : Building medium tree stamp options built) :
    Guarded medium tree stamp options built := by
  cases building with
  | stopped trouble loading =>
    exact
      { failure := fun _ => changedFiles_self distinct
        success := fun done => absurd done trouble.exitCode_ne_zero
        kept := fun _ _ _ _ _ => .inl rfl }
  | rejected loaded report loading verdict =>
    exact
      { failure := fun _ => changedFiles_self distinct
        success := fun done => absurd (reportExit_eq_zero_iff.1 done) (by simp [verdict])
        kept := fun _ _ _ _ _ => .inl rfl }
  | unwritten loaded report after error loading verdict writing =>
    obtain ⟨distinct', untouched⟩ := untouched_of_writeDocumentOn_error distinct removes writing
    refine
      { failure := fun _ => (changedFiles_eq_nil_iff distinct').2 fun location _ =>
          (untouched location).file
        success := fun done => absurd done (Trouble.output error).exitCode_ne_zero
        kept := fun loaded' report' loading' fresh location => ?_ }
    obtain ⟨rfl, rfl⟩ := loaded_unique loading loading'
    exact .inl ((untouched location).eq_of_fresh distinct fresh)
  | written loaded report after written loading verdict writing =>
    obtain ⟨-, location, wrote⟩ := wrote_of_writeDocumentOn_ok distinct writing
    have ended : reportExit report = 0 := reportExit_eq_zero_iff.2 verdict
    refine
      { failure := fun undone => absurd ended undone
        success := fun _ =>
          ⟨loaded, report, location, loading, verdict, wrote.located, wrote.content, ?_⟩
        kept := fun loaded' report' loading' fresh other => ?_ }
    · rintro ⟨other, content⟩ changed
      obtain ⟨found, new⟩ := (mem_changedFiles_iff wrote.distinct).1 changed
      by_cases here : other = location
      · subst here
        rw [wrote.content] at found
        rw [Option.some.inj found]
      · exact absurd ((wrote.others other here).file found) new
    · obtain ⟨rfl, rfl⟩ := loaded_unique loading loading'
      by_cases here : other = location
      · exact .inr ⟨ended, here ▸ wrote.located⟩
      · exact .inl ((wrote.others other here).eq_of_fresh distinct fresh)

/-- **Whatever the program is asked to do**, it changes no file unless it ends with zero. -/
theorem changedFiles_runOn_eq_nil (removes : medium.Removes) (distinct : tree.Distinct) (stamp : String)
    (arguments : List String) (failed : (runOn medium tree stamp arguments).2.exitCode ≠ 0) :
    changedFiles tree (runOn medium tree stamp arguments).1 = [] := by
  rw [runOn] at failed ⊢
  split
  case h_2 action options request =>
    rw [request] at failed
    cases action with
    | check => exact changedFiles_self distinct
    | build => exact ((building medium tree stamp options).guarded removes distinct).failure failed
    | loops => exact changedFiles_self distinct
  all_goals exact changedFiles_self distinct

/-! ### What is said -/

/-- Building a story answers as checking it does, and goes on where the story is accepted. -/
structure Follows (medium : Medium) (tree : FileTree) (stamp : String) (options : Options)
    (checked : Answer) (built : FileTree × Answer) : Prop where
  /-- Both end with one, or neither does. -/
  rejects : checked.exitCode = 1 ↔ built.2.exitCode = 1
  /-- What cannot be checked cannot be built. -/
  fails : checked.exitCode = 2 → built.2.exitCode = 2
  /-- What passes is built, unless its document cannot be written. -/
  passes : checked.exitCode = 0 → built.2.exitCode = 0 ∨
    built.2.exitCode = 2 ∧ ∃ loaded report error, loadReport tree options = .ok (loaded, report) ∧
      (writeDocumentOn medium tree stamp (outputPath options loaded) loaded.graph).2 = .error error ∧
      built.2 = .ofTrouble (.output error)
  /-- Without a report the answers are the same. -/
  stops : ∀ trouble, loadReport tree options = .error trouble → built.2 = checked
  /-- A line is added to the report that rejects a story. -/
  adds : ∀ loaded report, loadReport tree options = .ok (loaded, report) → report.accepted = false →
    options.json = false → built.2.output = checked.output ++ (rejectedLine ++ "\n")

theorem asLines_concat (lines : List String) (line : String) :
    asLines (lines ++ [line]) = asLines lines ++ (line ++ "\n") := by
  simp [asLines]

theorem check_of_error {trouble : Trouble} (loading : loadReport tree options = .error trouble) :
    check tree options = .ofTrouble trouble := by
  rw [check, loading]

theorem exitCode_check_of_ok {loaded : Loaded} {report : Report}
    (loading : loadReport tree options = .ok (loaded, report)) :
    (check tree options).exitCode = reportExit report := by
  rw [check, loading]

theorem output_check_of_ok {loaded : Loaded} {report : Report}
    (loading : loadReport tree options = .ok (loaded, report)) (asText : options.json = false) :
    (check tree options).output = asLines (reportLines report) := by
  rw [check, loading]
  simp [asText]

theorem Follows.of_exitCode_eq {checked : Answer} {built : FileTree × Answer}
    (same : checked.exitCode = built.2.exitCode)
    (stops : ∀ trouble, loadReport tree options = .error trouble → built.2 = checked)
    (adds : ∀ loaded report, loadReport tree options = .ok (loaded, report) →
      report.accepted = false → options.json = false →
        built.2.output = checked.output ++ (rejectedLine ++ "\n")) :
    Follows medium tree stamp options checked built where
  rejects := by rw [same]
  fails two := same.symm.trans two
  passes zero := .inl (same.symm.trans zero)
  stops := stops
  adds := adds

/-- **However building ends**, its answer follows that of checking. -/
theorem Building.follows {built : FileTree × Answer}
    (building : Building medium tree stamp options built) :
    Follows medium tree stamp options (check tree options) built := by
  cases building with
  | stopped trouble loading =>
    have same := check_of_error loading
    exact .of_exitCode_eq (by rw [same]) (fun _ _ => same.symm)
      fun _ _ loading' => nomatch loading.symm.trans loading'
  | rejected loaded report loading verdict =>
    refine .of_exitCode_eq (exitCode_check_of_ok loading)
      (fun _ loading' => nomatch loading.symm.trans loading') fun loaded' report' loading' _ asText => ?_
    obtain ⟨rfl, rfl⟩ := loaded_unique loading loading'
    rw [output_check_of_ok loading asText, ← asLines_concat]
    simp [buildAnswer, asText]
  | unwritten loaded report after error loading verdict writing =>
    -- the one end that checking does not know
    have zero : (check tree options).exitCode = 0 :=
      (exitCode_check_of_ok loading).trans (reportExit_eq_zero_iff.2 verdict)
    have two : (Answer.ofTrouble (.output error)).exitCode = 2 := rfl
    exact
      { rejects := by rw [zero, two]; decide
        fails := fun _ => two
        passes := fun _ => .inr ⟨two, loaded, report, error, loading, by rw [writing], rfl⟩
        stops := fun _ loading' => nomatch loading.symm.trans loading'
        adds := fun loaded' report' loading' rejected => by
          obtain ⟨rfl, rfl⟩ := loaded_unique loading loading'
          exact absurd (verdict.symm.trans rejected) nofun }
  | written loaded report after written loading verdict writing =>
    refine .of_exitCode_eq (exitCode_check_of_ok loading)
      (fun _ loading' => nomatch loading.symm.trans loading') fun loaded' report' loading' rejected => ?_
    obtain ⟨rfl, rfl⟩ := loaded_unique loading loading'
    exact absurd (verdict.symm.trans rejected) nofun

/-- **Nothing is exported unless the story is accepted, and building agrees with checking**, whatever the
medium refuses, as long as files can be removed.

Building that ends with anything but zero leaves no file that is new or has other bytes than before.
Building that ends with zero leaves one at most, and this is the document of an accepted story, at
the output path.  Checking the same story with the same settings, wherever the document goes, ends
with one exactly when building does; what cannot be checked cannot be built, and what passes is
built unless its document cannot be written. -/
theorem build_guarded_and_follows_check (medium : Medium) (removes : medium.Removes) (tree : FileTree)
    (distinct : tree.Distinct) (stamp : String) (options : Options) (out? : Option String)
    (debug : Bool) :
    Guarded medium tree stamp options (build medium tree stamp options) ∧
      Follows medium tree stamp options (check tree { options with out?, debug })
        (build medium tree stamp options) :=
  ⟨(building medium tree stamp options).guarded removes distinct,
    (building medium tree stamp options).follows⟩

/-! ### A story that is built, and one that is not -/

/-- A porch from which one goes out into a garden, where the story ends. -/
def gardenTexts : List (String × String) :=
  [("garden.md", "---\nend: true\n---\nA garden.\n"),
    ("porch.md", "---\nstart: true\nchoices:\n  Out: garden\n---\nA porch.\n")]

/-- The document of an earlier story, where it is usually written. -/
def oldDocument : List (String × FileTree.Entry) :=
  [("src", .directory [("story.json", .file "\x7b\x7d\n".toUTF8)])]

/-- The story of the porch and the garden, which has to be written over another. -/
def gardenStory : FileTree := storyTree gardenTexts oldDocument

/-- The same without the garden, so that the porch leads nowhere. -/
def porchStory : FileTree := storyTree gardenTexts.tail oldDocument

/-- Nothing but the earlier story's document. -/
def blankStory : FileTree := storyTree [] oldDocument

@[inherit_doc gardenTexts]
def gardenGraph : Graph := .ofSources true (topSources gardenTexts)

@[inherit_doc porchStory]
def porchGraph : Graph := .ofSources true (topSources gardenTexts.tail)

/-- The lines of the document of the story. -/
def gardenLines : List String :=
  ["\x7b",
    "  \"garden\": \x7b",
    "    \"start\": false,",
    "    \"end\": true,",
    "    \"revisit\": true,",
    "    \"variants\": [",
    "      \x7b",
    "        \"choices\": \x7b\x7d,",
    "        \"text\": \"A garden.\"",
    "      \x7d",
    "    ]",
    "  \x7d,",
    "  \"porch\": \x7b",
    "    \"start\": true,",
    "    \"end\": false,",
    "    \"revisit\": true,",
    "    \"variants\": [",
    "      \x7b",
    "        \"choices\": \x7b",
    "          \"Out\": \"garden\"",
    "        \x7d,",
    "        \"text\": \"A porch.\"",
    "      \x7d",
    "    ]",
    "  \x7d",
    "\x7d"]

theorem renderDocument_gardenGraph : renderDocument gardenGraph = "\n".intercalate gardenLines := by
  refine String.toList_injective ?_
  rw [renderDocument, Json.render, String.toList_ofList, String.toList_intercalate]
  decide +kernel

theorem distinct_storyTree_oldDocument {texts : List (String × String)}
    (distinct : (texts.map Prod.fst).Nodup) : (storyTree texts oldDocument).Distinct := by
  have story : (Entry.directory (texts.map fun text => (text.1, .file text.2.toUTF8))).Distinct := by
    refine Entry.distinct_directory ?_ ?_
    · rwa [List.map_map]
    · refine List.forall_iff_forall_mem.2 fun child member => ?_
      obtain ⟨text, -, rfl⟩ := List.mem_map.1 member
      exact Entry.distinct_file _
  have old : (Entry.directory [("story.json", .file "\x7b\x7d\n".toUTF8)]).Distinct :=
    Entry.distinct_directory (by decide) (Entry.distinct_file _)
  exact Entry.distinct_directory (by decide : ["story", "src"].Nodup) ⟨story, old⟩

theorem unreachable_gardenGraph : unreachable gardenGraph = [] := by
  have porch : gardenGraph.Reached "porch" := .start (by decide +kernel)
  have garden : gardenGraph.Reached "garden" := porch.next (by decide +kernel)
  have groups : ∀ node ∈ gardenGraph.nodes, node.group = "porch" ∨ node.group = "garden" := by
    decide +kernel
  refine unreachable_eq_nil (Graph.wellFormed_ofInsertions _) (by decide +kernel)
    fun node member => ?_
  rcases groups node member with same | same
  · exact same ▸ porch
  · exact same ▸ garden

/-- **The story of the porch and the garden is accepted**, whatever the words of style are. -/
theorem accepted_gardenGraph {rules : Marker.Rules} (limits : rules.thresholds = {})
    (deviation : Float) : (Check.run ⟨gardenGraph, rules, deviation⟩ catalogue).accepted = true := by
  have free : (classifyLoops gardenGraph).inescapable = [] := by
    have none : findLoops gardenGraph = [] := by decide +kernel
    rw [classifyLoops, none]
    rfl
  have accepted : (Check.run ⟨gardenGraph, plainRules, 1.0⟩ catalogue).accepted = true :=
    accepted_of_searches unreachable_gardenGraph free (by decide +kernel)
  refine accepted_of_plain (fun node member => ?_) accepted
  have undeclared : ∀ node ∈ gardenGraph.nodes, ∀ concern ∈ Concern.all,
      node.style.declared? concern = none := by decide +kernel
  have bare : ∀ node ∈ gardenGraph.nodes, '/' ∉ node.text.toList ∧
      (Text.proseLines node.text).length = 1 := by decide +kernel
  refine ⟨fun concern => undeclared node member concern ?_, (bare node member).1, ?_⟩
  · cases concern <;> decide
  · rw [(bare node member).2, limits]
    decide

/-- **The story of the porch alone is rejected**, since it has no ending. -/
theorem not_accepted_porchGraph (rules : Marker.Rules) (deviation : Float) :
    (Check.run ⟨porchGraph, rules, deviation⟩ catalogue).accepted = false := by
  have ending : .needed "ending_nodes" "at least one ending part" (.fault .endingNodes) ∈ catalogue := by
    decide
  have none : Fault.endingNodes.find porchGraph = [] := by decide +kernel
  refine Bool.eq_false_iff.2 fun accepted => offenders_ne_nil_of_accepted accepted ending ?_
  rw [Probe.offenders, none, List.map_nil]

theorem exists_accepted_loadReport_gardenStory :
    ∃ report, loadReport gardenStory {} = .ok (⟨{}, "story", gardenGraph⟩, report) ∧
      report.accepted = true := by
  obtain ⟨⟨graph, rules, deviation⟩, rfl, limits, loading⟩ := exists_loadReport_of_unset
    (by decide +kernel) (sourcesIn_storyTree oldDocument (by decide +kernel) (by decide +kernel))
    (by decide : topSources gardenTexts ≠ [])
  exact ⟨_, loading, accepted_gardenGraph limits deviation⟩

theorem exists_rejected_loadReport_porchStory :
    ∃ report, loadReport porchStory {} = .ok (⟨{}, "story", porchGraph⟩, report) ∧
      report.accepted = false := by
  obtain ⟨⟨graph, rules, deviation⟩, rfl, -, loading⟩ := exists_loadReport_of_unset
    (by decide +kernel) (sourcesIn_storyTree oldDocument (by decide +kernel) (by decide +kernel))
    (by decide : topSources gardenTexts.tail ≠ [])
  exact ⟨_, loading, not_accepted_porchGraph rules deviation⟩

/-- Where there is room, building ends well and changes the document alone. -/
theorem build_sound_gardenStory :
    (build .sound gardenStory "1" {}).2.exitCode = 0 ∧
      (changedFiles gardenStory (build .sound gardenStory "1" {}).1).map Prod.fst =
        [["src", "story.json"]] := by
  obtain ⟨report, loading, verdict⟩ := exists_accepted_loadReport_gardenStory
  have writing : (writeDocumentOn .sound gardenStory "1" "src/story.json" gardenGraph).2.isOk = true ∧
      (changedFiles gardenStory
        (writeDocumentOn .sound gardenStory "1" "src/story.json" gardenGraph).1).map Prod.fst =
          [["src", "story.json"]] := by decide +kernel
  obtain ⟨after, written, wrote⟩ := exists_report_of_isOk writing.1
  have built := build_of_ok loading verdict wrote
  have there := congrArg Prod.fst wrote
  refine ⟨?_, ?_⟩
  · rw [built]
    exact reportExit_eq_zero_iff.2 verdict
  · rw [built, ← there]
    exact writing.2

/-- On a full disk building ends with the cause. -/
theorem build_fullDisk_gardenStory :
    (build fullDisk gardenStory "1" {}).2 =
      { errors := "error: failed to write src/story.json.tmp.1: No space left on device (os error 28)\n"
        exitCode := 2 } := by
  obtain ⟨report, loading, verdict⟩ := exists_accepted_loadReport_gardenStory
  obtain ⟨after, error, refused, said⟩ := exists_error_of_message (by decide +kernel :
    (writeDocumentOn fullDisk gardenStory "1" "src/story.json" gardenGraph).2.mapError
      WriteError.message =
        .error "failed to write src/story.json.tmp.1: No space left on device (os error 28)")
  have built := build_of_error loading verdict refused
  have line : errorLine error.message =
      "error: failed to write src/story.json.tmp.1: No space left on device (os error 28)\n" := by
    rw [said]
    decide +kernel
  rw [built, ← line]
  rfl

/-- **The story is written, or the old one is kept.**  Where there is room, the document of the porch and the
garden replaces that of the earlier story, and nothing else changes.  On a full disk it cannot be written,
and all files are as they were.  Without the garden there is no document to write, and building says so
below the report.  Without any document there is no report either. -/
theorem gardenStory_built_or_kept :
    gardenStory.Distinct ∧ porchStory.Distinct ∧ blankStory.Distinct ∧ fullDisk.Removes ∧
      (check gardenStory {}).exitCode = 0 ∧
      (build .sound gardenStory "1" {}).2.exitCode = 0 ∧
      changedFiles gardenStory (build .sound gardenStory "1" {}).1 =
        [(["src", "story.json"], ("\n".intercalate gardenLines).toUTF8)] ∧
      (build fullDisk gardenStory "1" {}).2 =
        { errors := "error: failed to write src/story.json.tmp.1: No space left on device (os error 28)\n"
          exitCode := 2 } ∧
      changedFiles gardenStory (build fullDisk gardenStory "1" {}).1 = [] ∧
      (check porchStory {}).exitCode = 1 ∧
      (build .sound porchStory "1" {}).2.exitCode = 1 ∧
      (build .sound porchStory "1" {}).2.output =
        (check porchStory {}).output ++ "[story-build] FAIL could not generate story, fix and rerun\n" ∧
      changedFiles porchStory (build .sound porchStory "1" {}).1 = [] ∧
      (build .sound blankStory "1" {}).2 =
        { errors := "error: could not locate any story parts under story\n", exitCode := 1 } ∧
      changedFiles blankStory (build .sound blankStory "1" {}).1 = [] := by
  have distinct : gardenStory.Distinct := distinct_storyTree_oldDocument (by decide)
  have distinct' : porchStory.Distinct := distinct_storyTree_oldDocument (by decide)
  have distinct'' : blankStory.Distinct := distinct_storyTree_oldDocument (by decide)
  have removes : fullDisk.Removes := fun _ _ => rfl
  obtain ⟨report, loading, verdict⟩ := exists_accepted_loadReport_gardenStory
  obtain ⟨report', loading', verdict'⟩ := exists_rejected_loadReport_porchStory
  have passed : (check gardenStory {}).exitCode = 0 :=
    (exitCode_check_of_ok loading).trans (reportExit_eq_zero_iff.2 verdict)
  have failed : (check porchStory {}).exitCode = 1 := by
    rw [exitCode_check_of_ok loading', reportExit, verdict']
    rfl
  have guarded := fun medium (removes : Medium.Removes medium) =>
    (build_guarded_and_follows_check medium removes gardenStory distinct "1" {} none false).1
  obtain ⟨guarded', follows⟩ := build_guarded_and_follows_check .sound Medium.removes_sound porchStory
    distinct' "1" {} none false
  obtain ⟨guarded'', -⟩ := build_guarded_and_follows_check .sound Medium.removes_sound blankStory
    distinct'' "1" {} none false
  have stopped : (build .sound blankStory "1" {}).2 =
      { errors := "error: could not locate any story parts under story\n", exitCode := 1 } := by
    decide +kernel
  obtain ⟨zero, places⟩ := build_sound_gardenStory
  have two := build_fullDisk_gardenStory
  have one : (build .sound porchStory "1" {}).2.exitCode = 1 := follows.rejects.1 failed
  refine ⟨distinct, distinct', distinct'', removes, passed, zero, ?_, two,
    (guarded fullDisk removes).failure (by rw [two]; decide), failed, one, ?_,
    guarded'.failure (by rw [one]; decide), stopped, guarded''.failure (by rw [stopped]; decide)⟩
  · obtain ⟨loaded, _, location, exported⟩ := (guarded .sound Medium.removes_sound).success zero
    obtain ⟨rfl, -⟩ := loaded_unique loading exported.loading
    obtain ⟨changed, single, place⟩ := List.map_eq_singleton_iff.1 places
    obtain rfl := exported.only changed (by rw [single]; exact List.mem_singleton_self _)
    obtain rfl : location = ["src", "story.json"] := place
    rw [single, renderDocument_gardenGraph]
  · have line : rejectedLine ++ "\n" =
        "[story-build] FAIL could not generate story, fix and rerun\n" := by decide +kernel
    rw [← line]
    exact follows.adds _ _ loading' verdict' rfl

end Gamebook.Command
