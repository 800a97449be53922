import Gamebook.Proofs.Analysis.Escape
import Gamebook.Proofs.Check.Severity
import Gamebook.Proofs.Command.Loading
import Mathlib.Data.List.GetD
import Mathlib.Data.List.Perm.Basic

/-!
# The list of loops and the report

A story can be asked for its loops in two ways.  The list of loops has a row for each of them, in the
order of their groups, and every row says whether an ending can be reached.  The report has two checks
for the same thing, one that names the loops with an ending in reach and one that names the others, in
the order of discovery.  This file says that both describe the same loops.

## Why the rows are strictly in order

Sorting by the groups only says that no row has groups before those of the row in front of it.  But the
search keeps no canonical form twice, and the rows are those of the loops of both classes, so no two
rows have the same groups (`pairwise_groups_loopRows`).

## Why nothing is lost on the way

The rows are made class by class, joined and sorted.  That exchanges rows and does nothing else, so the
rows of one kind are those of one class (`offenders_loopRows_perm`), and so are what the check of that
class names.

## What is printed

An object is printed with its members in the order of their names.  No two members of the list have the same
name, so the order that they are put in first does not matter, and what is printed can be written down
(`sorted_object_eq`).
-/

namespace Gamebook.Command

open Gamebook.Analysis Gamebook.Check Gamebook.Document Gamebook.Json Gamebook.Story

/-! ### The rows of a story -/

/-- The loop of a row as a check points at it. -/
def LoopRow.offender (row : LoopRow) : Offender := .loop row.groups row.sourceIds

@[simp] theorem LoopRow.offender_ofLoop (escapable : Bool) (found : Loop) :
    (LoopRow.ofLoop escapable found).offender = .ofLoop found := rfl

@[simp] theorem LoopRow.escapable_ofLoop (escapable : Bool) (found : Loop) :
    (LoopRow.ofLoop escapable found).escapable = escapable := rfl

/-- The loops of a story with an ending in reach, or those without. -/
def loopsOf (graph : Graph) (escapable : Bool) : List Loop :=
  if escapable then (classifyLoops graph).escapable else (classifyLoops graph).inescapable

variable {graph : Graph}

theorem loopRows_perm (graph : Graph) :
    (loopRows graph).Perm ((loopsOf graph true).map (LoopRow.ofLoop true) ++
      (loopsOf graph false).map (LoopRow.ofLoop false)) :=
  List.mergeSort_perm _ _

/-- The rows go through the groups of the loops that are found. -/
theorem groups_loopRows_perm (graph : Graph) :
    ((loopRows graph).map (·.groups)).Perm ((findLoops graph).map (·.canonical)) := by
  refine ((loopRows_perm graph).map _).trans ?_
  rw [List.map_append, List.map_map, List.map_map]
  have loops := (escapable_append_inescapable_perm graph).map (·.canonical)
  rw [List.map_append] at loops
  exact loops

theorem length_loopRows (graph : Graph) : (loopRows graph).length = (findLoops graph).length := by
  have same := (groups_loopRows_perm graph).length_eq
  rwa [List.length_map, List.length_map] at same

/-- **The rows are strictly in the order of their groups.** -/
theorem pairwise_groups_loopRows (graph : Graph) :
    ((loopRows graph).map (·.groups)).Pairwise (· < ·) := by
  have distinct : ((loopRows graph).map (·.groups)).Nodup :=
    (groups_loopRows_perm graph).nodup_iff.2 (nodup_canonicals_findLoopsWithin _ graph)
  have sorted : ((loopRows graph).map (·.groups)).Pairwise (· ≤ ·) := by
    refine List.pairwise_map.2 ((List.pairwise_mergeSort ?_ ?_ _).imp ?_)
    · intro a b c
      simp only [Bool.not_eq_true', decide_eq_false_iff_not, Std.not_lt]
      exact Std.le_trans
    · intro a b
      simp only [Bool.or_eq_true, Bool.not_eq_true', decide_eq_false_iff_not, Std.not_lt]
      exact Std.le_total
    · intro a b
      simp only [Bool.not_eq_true', decide_eq_false_iff_not, Std.not_lt]
      exact id
  refine (sorted.and distinct).imp fun {a b} both => ?_
  by_contra notBelow
  exact both.2 (Std.le_antisymm both.1 (Std.not_lt.1 notBelow))

/-- **The rows of one kind are the loops of one class.** -/
theorem offenders_loopRows_perm (graph : Graph) (escapable : Bool) :
    (((loopRows graph).filter fun row => row.escapable = escapable).map LoopRow.offender).Perm
      ((loopsOf graph escapable).map .ofLoop) := by
  have kept : ∀ kind, (((loopsOf graph kind).map (LoopRow.ofLoop kind)).filter fun row =>
      row.escapable = escapable).map LoopRow.offender =
        if kind = escapable then (loopsOf graph escapable).map .ofLoop else [] := by
    intro kind
    rw [List.filter_map, List.map_map]
    split
    · next same =>
      subst same
      rw [List.filter_eq_self.2 fun found _ => by simp]
      rfl
    · next other =>
      rw [List.filter_eq_nil_iff.2 fun found _ => by simp [other]]
      rfl
  refine (((loopRows_perm graph).filter _).map _).trans (List.Perm.of_eq ?_)
  rw [List.filter_append, List.map_append, kept, kept]
  cases escapable <;> simp

/-- A kind of rows is as long as its class. -/
theorem escapableCount_loopRows (graph : Graph) :
    escapableCount (loopRows graph) = (loopsOf graph true).length := by
  have same := (offenders_loopRows_perm graph true).length_eq
  rw [List.length_map, List.length_map] at same
  rw [escapableCount, List.countP_eq_length_filter, ← same]
  simp

theorem length_findLoops (graph : Graph) :
    (findLoops graph).length = (loopsOf graph true).length + (loopsOf graph false).length := by
  rw [← (escapable_append_inescapable_perm graph).length_eq, List.length_append]
  rfl

/-! ### The report on a story -/

variable {tree : FileTree} {options : Options} {loaded : Loaded} {report : Report}

/-- **What the check of a class names** are the loops of the class. -/
theorem exists_outcome_loopsOf (loading : loadReport tree options = .ok (loaded, report))
    (escapable : Bool) :
    ∃ outcome ∈ report.checks,
      report.outcome? (if escapable then "escapable_loops" else "inescapable_loops") = some outcome ∧
        (outcome.severity ≠ .off → outcome.offenders = (loopsOf loaded.graph escapable).map .ofLoop) := by
  obtain ⟨rules, -, made⟩ := reportOn_eq_ok_iff.1 (loadReport_eq_ok_iff.1 loading).2
  cases escapable with
  | true => exact exists_outcome made (by decide :
      .warning "escapable_loops" "parts with looping choices" .escapableLoops ∈ catalogue)
  | false => exact exists_outcome made (by decide :
      .required "inescapable_loops" "parts with inescapable looping choices" .inescapableLoops
        ∈ catalogue)

/-- Where no check is switched off, what the checks of loops have found are the loops of the classes. -/
theorem offenders_of_outcome? (loading : loadReport tree options = .ok (loaded, report))
    (on : ∀ outcome ∈ report.checks, outcome.severity ≠ .off) (escapable : Bool) {outcome : Outcome}
    (found : report.outcome? (if escapable then "escapable_loops" else "inescapable_loops") =
      some outcome) : outcome.offenders = (loopsOf loaded.graph escapable).map .ofLoop := by
  obtain ⟨outcome', made, there, names⟩ := exists_outcome_loopsOf loading escapable
  obtain rfl : outcome = outcome' := Option.some.inj (found.symm.trans there)
  exact names (on _ made)

/-! ### What is printed -/

theorem sortedItems_map {α : Type} (items : List α) (f : α → Value) :
    Value.sortedItems (items.map f) = items.map fun item => (f item).sorted := by
  induction items with
  | nil => rfl
  | cons item items ih => rw [List.map_cons, Value.sortedItems, ih, List.map_cons]

theorem sorted_strings (texts : List String) :
    (Value.strings texts).sorted = .array (texts.map .string) := by
  rw [Value.strings, Value.sorted, sortedItems_map]
  rfl

/-- **Members stand in the order of their names**, if no two of them have the same one. -/
theorem sorted_object_eq {members ordered : List (String × Value)}
    (same : (Value.sortedMembers members).Perm ordered)
    (increasing : (ordered.map Prod.fst).Pairwise (· < ·)) :
    (Value.object members).sorted = .object ordered := by
  have sorted := sortedBy_perm Prod.fst (Value.sortedMembers members)
  have distinct : (ordered.map Prod.fst).Nodup := increasing.imp fun less => ne_of_lt less
  have weakly : ordered.Pairwise fun a b => a.1 ≤ b.1 :=
    (List.pairwise_map.1 increasing).imp fun less => le_of_lt less
  refine congrArg Value.object
    ((sorted.trans same).eq_of_pairwise ?_ (pairwise_sortedBy Prod.fst _) weakly)
  intro a b member member' below above
  have there : a ∈ ordered := (sorted.trans same).mem_iff.1 member
  exact List.inj_on_of_nodup_map distinct there member' (String.le_antisymm below above)

theorem LoopRow.sorted_toJson (row : LoopRow) :
    row.toJson.sorted = .object
      [("escapable", .boolean row.escapable), ("groups", .array (row.groups.map .string)),
        ("sourceIds", .array (row.sourceIds.map .string))] := by
  refine sorted_object_eq ?_ ?_
  · simp only [Value.sortedMembers, sorted_strings]
    show ([_, _] ++ [_]).Perm ([_] ++ [_, _])
    exact List.perm_append_comm
  · show ["escapable", "groups", "sourceIds"].Pairwise (· < ·)
    decide

/-- A list taken from its places, every place once, is a permutation of it. -/
theorem perm_map_getD {α : Type} (items : List α) (fallback : α) {places : List Nat}
    (once : places.Perm (List.range items.length)) :
    items.Perm (places.map fun place => items.getD place fallback) := by
  have whole : (List.range items.length).map (fun place => items.getD place fallback) = items := by
    refine List.ext_getElem (by simp) fun place _ there => ?_
    rw [List.getElem_map, List.getElem_range, List.getD_eq_getElem _ _ there]
  have taken := once.map fun place => items.getD place fallback
  rw [whole] at taken
  exact taken.symm

/-- **The list of loops as it is printed.** -/
theorem jsonOutput_loopsMembers (rows : List LoopRow) (root : String) :
    jsonOutput (loopsMembers rows ++ [("storyRoot", .string root)]) =
      Json.render (.object
        [("checkKind", .string "branchtale.story_loops.v1"),
          ("escapableCount", .integer (escapableCount rows)),
          ("inescapableCount", .integer (rows.length - escapableCount rows : Nat)),
          ("loopCount", .integer rows.length),
          ("loops", .array (rows.map fun row => .object
            [("escapable", .boolean row.escapable), ("groups", .array (row.groups.map .string)),
              ("sourceIds", .array (row.sourceIds.map .string))])),
          ("schema", .integer 1), ("storyRoot", .string root)]) ++ "\n" := by
  rw [jsonOutput]
  congr 2
  refine sorted_object_eq ?_ ?_
  · simp only [loopsMembers, List.cons_append, List.nil_append, Value.sortedMembers, Value.sorted,
      Value.count, sortedItems_map, LoopRow.sorted_toJson, loopsKind]
    -- the places of the members in the order of their names
    have places : [1, 3, 4, 2, 5, 0, 6].Perm (List.range 7) := by decide
    exact perm_map_getD [_, _, _, _, _, _, _] ("", Value.null) places
  · show ["checkKind", "escapableCount", "inescapableCount", "loopCount", "loops", "schema",
      "storyRoot"].Pairwise (· < ·)
    decide

/-- **The list of loops describes the loops that the report names.**  Where checking a story makes a
report and neither check of loops is switched off, listing its loops succeeds, wherever the compiled
story would go.  What it prints has a row for every loop, with its groups, its variants and whether an
ending is in reach.  The rows are strictly in the order of their groups.  Those with an ending in reach are,
up to their order, the loops that the one check names, and those without are the loops that the other
names.  The numbers are those of the loops found and of the loops that each check names, which make the
former together. -/
theorem loops_lists_what_check_names (loading : loadReport tree options = .ok (loaded, report))
    (on : ∀ outcome ∈ report.checks,
      outcome.name = "escapable_loops" ∨ outcome.name = "inescapable_loops" → outcome.severity ≠ .off)
    (out? : Option String) (debug : Bool) :
    check tree { options with json := true } =
        { output := jsonOutput (reportMembers loaded report), exitCode := reportExit report } ∧
      ∃ escapable inescapable : Outcome, ∃ rows : List LoopRow,
        report.outcome? "escapable_loops" = some escapable ∧
        report.outcome? "inescapable_loops" = some inescapable ∧
        loops tree { options with json := true, out?, debug } =
          { output := Json.render (.object
              [("checkKind", .string "branchtale.story_loops.v1"),
                ("escapableCount", .integer escapable.offenders.length),
                ("inescapableCount", .integer inescapable.offenders.length),
                ("loopCount", .integer (findLoops loaded.graph).length),
                ("loops", .array (rows.map fun row => .object
                  [("escapable", .boolean row.escapable),
                    ("groups", .array (row.groups.map .string)),
                    ("sourceIds", .array (row.sourceIds.map .string))])),
                ("schema", .integer 1), ("storyRoot", .string loaded.root)]) ++ "\n" } ∧
        (rows.map (·.groups)).Pairwise (· < ·) ∧
        ((rows.filter fun row => row.escapable = true).map LoopRow.offender).Perm
          escapable.offenders ∧
        ((rows.filter fun row => row.escapable = false).map LoopRow.offender).Perm
          inescapable.offenders ∧
        (findLoops loaded.graph).length =
          escapable.offenders.length + inescapable.offenders.length := by
  obtain ⟨escapable, made, found, names⟩ := exists_outcome_loopsOf loading true
  obtain ⟨inescapable, made', found', names'⟩ := exists_outcome_loopsOf loading false
  have named : escapable.name = "escapable_loops" := by
    simpa using List.find?_some found
  have named' : inescapable.name = "inescapable_loops" := by
    simpa using List.find?_some found'
  have offenders := names (on _ made (.inl named))
  have offenders' := names' (on _ made' (.inr named'))
  have count : escapable.offenders.length = (loopsOf loaded.graph true).length := by
    rw [offenders, List.length_map]
  have count' : inescapable.offenders.length = (loopsOf loaded.graph false).length := by
    rw [offenders', List.length_map]
  have both := length_findLoops loaded.graph
  refine ⟨?_, escapable, inescapable, loopRows loaded.graph, found, found', ?_,
    pairwise_groups_loopRows _, ?_, ?_, ?_⟩
  · have loading' : loadReport tree { options with json := true } = .ok (loaded, report) := loading
    rw [check, loading']
    rfl
  · have there : load tree { options with json := true, out?, debug } = .ok loaded :=
      (loadReport_eq_ok_iff.1 loading).1
    have rest : (findLoops loaded.graph).length - (loopsOf loaded.graph true).length =
        inescapable.offenders.length := by
      omega
    rw [loops, there]
    simp only [if_true, jsonOutput_loopsMembers, length_loopRows, escapableCount_loopRows, rest, count]
  · rw [offenders]
    exact offenders_loopRows_perm _ true
  · rw [offenders']
    exact offenders_loopRows_perm _ false
  · rw [count, count', both]

/-! ### A story with a loop of each kind -/

theorem toList_asLines (lines : List String) :
    (asLines lines).toList = lines.flatMap fun line => line.toList ++ ['\n'] := by
  rw [asLines]
  simp [List.flatMap_map]

/-- A hall in which one may wait or from which one may go on to a den or out on a roof, where the story
ends; in the den one can only wait. -/
def denTexts : List (String × String) :=
  [("den.md", "---\nchoices:\n  Wait: den\n---\nA den.\n"),
    ("hall.md", "---\nstart: true\nchoices:\n  In: den\n  Out: roof\n  Wait: hall\n---\nA hall.\n"),
    ("roof.md", "---\nend: true\n---\nA roof.\n")]

@[inherit_doc denTexts]
def denStory : FileTree := storyTree denTexts []

@[inherit_doc denTexts]
def denGraph : Graph := .ofSources true (topSources denTexts)

/-- The loop of waiting in a room. -/
def waiting (room : String) : Loop :=
  ⟨(denGraph.nodes.filter fun node => node.group = room).flatMap fun node => [node, node],
    [room, room]⟩

theorem findLoops_denGraph : findLoops denGraph = [waiting "den", waiting "hall"] := by decide +kernel

/-- The lines that are printed when the loops of the story are asked for. -/
def denLoopsLines : List String :=
  ["\x7b",
    "  \"checkKind\": \"branchtale.story_loops.v1\",",
    "  \"escapableCount\": 1,",
    "  \"inescapableCount\": 1,",
    "  \"loopCount\": 2,",
    "  \"loops\": [",
    "    \x7b",
    "      \"escapable\": false,",
    "      \"groups\": [",
    "        \"den\",",
    "        \"den\"",
    "      ],",
    "      \"sourceIds\": [",
    "        \"den.md\",",
    "        \"den.md\"",
    "      ]",
    "    \x7d,",
    "    \x7b",
    "      \"escapable\": true,",
    "      \"groups\": [",
    "        \"hall\",",
    "        \"hall\"",
    "      ],",
    "      \"sourceIds\": [",
    "        \"hall.md\",",
    "        \"hall.md\"",
    "      ]",
    "    \x7d",
    "  ],",
    "  \"schema\": 1,",
    "  \"storyRoot\": \"story\"",
    "\x7d"]

theorem classifyLoops_denGraph : classifyLoops denGraph = ⟨[waiting "hall"], [waiting "den"]⟩ := by
  have hall : (waiting "hall").canEscape denGraph = true := by
    obtain ⟨node, onLoop, named⟩ : ∃ node ∈ (waiting "hall").nodes, node.group = "hall" := by
      decide +kernel
    refine canEscape_iff_exists_node.2 ⟨node, onLoop, "roof", by decide +kernel, ?_⟩
    rw [named]
    exact .single (by decide +kernel)
  have den : (waiting "den").canEscape denGraph = false := by
    rw [Bool.eq_false_iff, Ne, canEscape_iff_exists_node]
    rintro ⟨node, onLoop, leaves⟩
    have named : ∀ node ∈ (waiting "den").nodes, node.group = "den" := by decide +kernel
    rw [named node onLoop] at leaves
    exact not_canEnd_of_forall_links (by decide +kernel) (by decide +kernel) leaves
  simp [classifyLoops, findLoops_denGraph, List.partition_eq_filter_filter, hall, den]

theorem offenders_denGraph (escapable : Bool) :
    (loopsOf denGraph escapable).map Offender.ofLoop =
      if escapable then [Offender.loop ["hall", "hall"] ["hall.md", "hall.md"]]
      else [Offender.loop ["den", "den"] ["den.md", "den.md"]] := by
  rw [loopsOf, classifyLoops_denGraph]
  revert escapable
  decide +kernel

theorem filter_escapable_eq_singleton {rows : List LoopRow} {kind : Bool}
    {groups sourceIds : List String}
    (only : ((rows.filter fun row => row.escapable = kind).map LoopRow.offender).Perm
      [.loop groups sourceIds]) :
    (rows.filter fun row => row.escapable = kind) = [⟨groups, sourceIds, kind⟩] := by
  obtain ⟨row, single, points⟩ := List.map_eq_singleton_iff.1 only.eq_singleton
  have kept : row ∈ rows.filter fun row => row.escapable = kind := by
    rw [single]
    exact List.mem_singleton_self row
  have said : row.escapable = kind := of_decide_eq_true (List.mem_filter.1 kept).2
  obtain ⟨rfl, rfl⟩ := Offender.loop.inj points
  rw [single, ← said]

/-- Two rows of either kind are known by what the checks name. -/
theorem eq_pair_of_offenders {rows : List LoopRow} {groups groups' sourceIds sourceIds' : List String}
    (increasing : (rows.map (·.groups)).Pairwise (· < ·)) (less : groups < groups')
    (escapable : ((rows.filter fun row => row.escapable = true).map LoopRow.offender).Perm
      [.loop groups' sourceIds'])
    (inescapable : ((rows.filter fun row => row.escapable = false).map LoopRow.offender).Perm
      [.loop groups sourceIds]) :
    rows = [⟨groups, sourceIds, false⟩, ⟨groups', sourceIds', true⟩] := by
  have parts := List.filter_append_perm (fun row => decide (row.escapable = false)) rows
  have rest : (rows.filter fun row => !decide (row.escapable = false)) =
      rows.filter fun row => decide (row.escapable = true) := by simp
  rw [rest, filter_escapable_eq_singleton escapable, filter_escapable_eq_singleton inescapable] at parts
  refine parts.symm.eq_of_pairwise (fun _ _ _ _ below above => absurd above (lt_asymm below))
    (List.pairwise_map.1 increasing) ?_
  exact List.pairwise_pair.2 less

/-- **The two rows of the story** are those of waiting in the hall, from where an ending is in reach, and in
the den, from where none is; and this is what is printed. -/
theorem denStory_loops_listed :
    ∃ loaded report, loadReport denStory {} = .ok (loaded, report) ∧
      (∀ outcome ∈ report.checks,
        outcome.name = "escapable_loops" ∨ outcome.name = "inescapable_loops" →
          outcome.severity ≠ .off) ∧
      ∃ escapable inescapable, report.outcome? "escapable_loops" = some escapable ∧
        report.outcome? "inescapable_loops" = some inescapable ∧
        escapable.offenders = [.loop ["hall", "hall"] ["hall.md", "hall.md"]] ∧
        inescapable.offenders = [.loop ["den", "den"] ["den.md", "den.md"]] ∧
        loops denStory { json := true, debug := true } = { output := asLines denLoopsLines } := by
  have read : sourcesIn denStory "story" = .ok (topSources denTexts) :=
    sourcesIn_storyTree [] (by decide +kernel) (by decide +kernel)
  obtain ⟨report, loading, on⟩ : ∃ report,
      loadReport denStory {} = .ok (⟨{}, "story", denGraph⟩, report) ∧
        ∀ outcome ∈ report.checks, outcome.severity ≠ .off := by
    obtain ⟨context, -, -, loading⟩ :=
      exists_loadReport_of_unset (by decide +kernel) read (by decide)
    refine ⟨_, loading, fun outcome member => ?_⟩
    obtain ⟨entry, there, rfl⟩ := List.mem_map.1 member
    exact (by decide : ∀ entry ∈ catalogue, entry.severity ≠ .off) entry there
  obtain ⟨-, escapable, inescapable, rows, found, found', printed, increasing, first, second, -⟩ :=
    loops_lists_what_check_names loading (fun outcome made _ => on outcome made) none true
  have named : escapable.offenders = [.loop ["hall", "hall"] ["hall.md", "hall.md"]] :=
    (offenders_of_outcome? loading on true found).trans (offenders_denGraph true)
  have named' : inescapable.offenders = [.loop ["den", "den"] ["den.md", "den.md"]] :=
    (offenders_of_outcome? loading on false found').trans (offenders_denGraph false)
  rw [named] at first
  rw [named'] at second
  have both : rows = [⟨["den", "den"], ["den.md", "den.md"], false⟩,
      ⟨["hall", "hall"], ["hall.md", "hall.md"], true⟩] :=
    eq_pair_of_offenders increasing (by decide) first second
  refine ⟨_, report, loading, fun outcome made _ => on outcome made, escapable, inescapable, found,
    found', named, named', ?_⟩
  rw [both, named, named', findLoops_denGraph] at printed
  refine printed.trans (congrArg (fun output => Answer.mk output "" 0) ?_)
  refine String.toList_injective ?_
  rw [String.toList_append, render, String.toList_ofList, toList_asLines]
  decide +kernel

end Gamebook.Command
