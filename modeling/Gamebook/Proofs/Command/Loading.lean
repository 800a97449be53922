import Gamebook.Command.Run
import Gamebook.Proofs.Check.Plain
import Gamebook.Proofs.Document.Directory
import Gamebook.Proofs.Marker.Words

/-!
# Loading a story

Whatever the program is asked to do with a story, it first loads the settings and the documents, and what
is said of a story needs rules besides.  Each of these stages can fail, and the others are not begun then.
So there is a report exactly when every stage succeeds (`loadReport_eq_ok_iff`, `reportOn_eq_ok_iff`).

Where there is no settings file, everything has its usual value.  A story that can be read is reported on
then, whatever it says (`exists_loadReport_of_unset`), since the usual vocabulary has words for all
concerns (`exists_rules`).
-/

namespace Gamebook.Command

open Gamebook.Check Gamebook.Document Gamebook.FileTree Gamebook.Story

variable {tree : FileTree} {options : Options} {loaded : Loaded} {report : Report}

/-! ### Stages -/

theorem mapError_eq_ok_iff {ε ε' α : Type} {start : Except ε α} {change : ε → ε'} {result : α} :
    start.mapError change = .ok result ↔ start = .ok result := by
  cases start with
  | error failure => constructor <;> intro ok <;> cases ok
  | ok value =>
    exact ⟨fun ok => congrArg Except.ok (Except.ok.inj ok),
      fun ok => congrArg Except.ok (Except.ok.inj ok)⟩

/-- A story is reported on when there are rules and the settings name no other checks. -/
theorem reportOn_eq_ok_iff :
    reportOn tree loaded = .ok report ↔
      ∃ rules, loaded.settings.rules tree = .ok rules ∧
        checkStory ⟨loaded.graph, rules, loaded.settings.deviation⟩ loaded.settings.severities =
          .ok report := by
  constructor
  · intro reported
    obtain ⟨rules, ruled, checked⟩ := exists_of_bind_eq_ok reported
    exact ⟨rules, mapError_eq_ok_iff.1 ruled, mapError_eq_ok_iff.1 checked⟩
  · rintro ⟨rules, ruled, checked⟩
    rw [reportOn, ruled]
    exact mapError_eq_ok_iff.2 checked

/-- There is a report when there is a story that can be reported on. -/
theorem loadReport_eq_ok_iff :
    loadReport tree options = .ok (loaded, report) ↔
      load tree options = .ok loaded ∧ reportOn tree loaded = .ok report := by
  constructor
  · intro loading
    obtain ⟨loaded', there, loading⟩ := exists_of_bind_eq_ok loading
    obtain ⟨report', reported, same⟩ := exists_of_bind_eq_ok loading
    obtain ⟨rfl, rfl⟩ := Prod.mk.inj (Except.ok.inj same)
    exact ⟨there, reported⟩
  · rintro ⟨there, reported⟩
    rw [loadReport, there]
    show (reportOn tree loaded).bind _ = _
    rw [reported]
    rfl

theorem loaded_unique {loaded loaded' : Loaded} {report report' : Report}
    (loading : loadReport tree options = .ok (loaded, report))
    (loading' : loadReport tree options = .ok (loaded', report')) :
    loaded = loaded' ∧ report = report' :=
  Prod.mk.inj (Except.ok.inj (loading.symm.trans loading'))

theorem load_eq_ok {settings : Settings} {first : Source} {rest : List Source}
    (set : Settings.load tree options.config? = .ok settings)
    (read : sourcesIn tree (options.story?.getD settings.root) = .ok (first :: rest)) :
    load tree options = .ok ⟨settings, options.story?.getD settings.root,
      .ofSources settings.revisitDefault (first :: rest)⟩ := by
  have graph : loadGraph tree settings (options.story?.getD settings.root) =
      .ok (.ofSources settings.revisitDefault (first :: rest)) := by
    rw [loadGraph, read]
  rw [load, set]
  show (loadGraph tree settings (options.story?.getD settings.root)).bind _ = _
  rw [graph]
  rfl

/-! ### The usual settings -/

theorem rules_eq_ok {settings : Settings} {vocabulary : Marker.Vocabulary} {rules : Marker.Rules}
    (words : settings.vocabulary tree = .ok vocabulary)
    (made : Marker.Rules.ofVocabulary vocabulary settings.thresholds = .ok rules) :
    settings.rules tree = .ok rules := by
  rw [Settings.rules, words]
  exact mapError_eq_ok_iff.2 made

/-- The usual vocabulary has words for every concern. -/
theorem exists_rules (tree : FileTree) :
    ∃ rules, ({} : Settings).rules tree = .ok rules ∧ rules.thresholds = {} := by
  have vocabulary : ({} : Settings).vocabulary tree =
      .ok { colours := Marker.defaultColours ++ [], effects := Marker.defaultEffects } := rfl
  have named : ∀ concern ∈ Marker.wordedConcerns, ∃ word, Marker.Vocabulary.Names
      { colours := Marker.defaultColours ++ [], effects := Marker.defaultEffects } concern word := by
    simp only [Marker.wordedConcerns, List.forall_mem_cons]
    exact ⟨⟨"fastest", by decide, "fastest", List.mem_cons_self, by decide⟩,
      ⟨"aliceblue", by decide, "aliceblue", List.mem_cons_self, by decide⟩,
      ⟨"shake", by decide, "shake", List.mem_cons_self, by decide⟩, List.forall_mem_nil _⟩
  obtain ⟨rules, made⟩ := Marker.exists_ofVocabulary_iff.2 named
  exact ⟨rules, rules_eq_ok vocabulary made, (Marker.ofVocabulary_eq_ok_iff.1 made).2⟩

/-- **Without a settings file** a story that can be read is reported on, with the usual limits of style and
the usual severities. -/
theorem exists_loadReport_of_unset {sources : List Source}
    (unset : tree.hasEntry Settings.usualPath = false)
    (read : sourcesIn tree "story" = .ok sources) (some : sources ≠ []) :
    ∃ context, context.graph = .ofSources true sources ∧ context.rules.thresholds = {} ∧
      loadReport tree {} =
        .ok (⟨{}, "story", .ofSources true sources⟩, Check.run context catalogue) := by
  obtain ⟨rules, ruled, limits⟩ := exists_rules tree
  have settings : Settings.load tree none = .ok {} := by
    rw [Settings.load, unset]
    rfl
  obtain ⟨first, rest, rfl⟩ := List.exists_cons_of_ne_nil some
  refine ⟨⟨.ofSources true (first :: rest), rules, ({} : Settings).deviation⟩, rfl, limits, ?_⟩
  exact loadReport_eq_ok_iff.2 ⟨load_eq_ok settings read, reportOn_eq_ok_iff.2 ⟨rules, ruled, rfl⟩⟩

/-! ### Stories at the top of a directory -/

/-- A tree with a story, all documents of which are in one directory, and with something beside it. -/
def storyTree (texts : List (String × String)) (beside : List (String × FileTree.Entry)) : FileTree where
  root := .directory
    (("story", .directory (texts.map fun text => (text.1, .file text.2.toUTF8))) :: beside)
  workingDirectory := []

/-- The documents of such a story. -/
def topSources (texts : List (String × String)) : List Source :=
  texts.map fun text => sourceOfText ([text.1], text.2)

theorem storyFiles_map_file {texts : List (String × String)}
    (named : ∀ text ∈ texts, Path.hasExtension extension text.1 = true) :
    storyFiles (texts.map fun text => (text.1, FileTree.Entry.file text.2.toUTF8)) =
      texts.map fun text => ([text.1], text.2.toUTF8) := by
  unfold storyFiles
  induction texts with
  | nil => rfl
  | cons text rest ih =>
    obtain ⟨here, more⟩ := List.forall_mem_cons.1 named
    rw [List.map_cons, FileTree.Entry.filesIn, FileTree.Entry.files, List.filter_append, ih more]
    simp [here]

/-- **The documents of a story at the top of a directory** are those that it is made of. -/
theorem sourcesIn_storyTree {texts : List (String × String)} (beside : List (String × FileTree.Entry))
    (named : ∀ text ∈ texts, Path.hasExtension extension text.1 = true)
    (sorted : (topSources texts).Pairwise fun a b => a.sourceId ≤ b.sourceId) :
    sourcesIn (storyTree texts beside) "story" = .ok (topSources texts) := by
  have sources : topSources texts = (texts.map fun text => ([text.1], text.2)).map sourceOfText := by
    rw [List.map_map]
    rfl
  rw [sources] at sorted ⊢
  refine sourcesIn_eq_ok_of_texts ["story"] rfl rfl ?_ sorted
  rw [storyFiles_map_file named, List.map_map]
  rfl

end Gamebook.Command
