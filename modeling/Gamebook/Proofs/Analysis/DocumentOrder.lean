import Gamebook.Proofs.Analysis.Escape
import Gamebook.Proofs.Analysis.Playthrough
import Gamebook.Proofs.Analysis.Reach
import Gamebook.Proofs.Story.Reordering
import Gamebook.Story.Ingest

/-!
# The analyses do not depend on the order of the documents

Every search of this library has an order of its own, and that order comes from the order of the
variants: the stack of the search for what is reached, the loops that are met first, the variant by which
a playthrough is shown.  What the searches find, as a set, does not depend on it.

For the loops, the traps, the unreachable variants and the playthroughs this is read off what they were
shown to be: sets described by relations between names, which have the same answers in two graphs that
differ in the order of variants.

## Why the cutoffs need two runs

The count of what was given up is not described by a set of ways.  It counts a group once for every
choice that names it and every variant that it has.  So here two searches are followed side by side
(`cutoffs_continueInto_eq`): at calls whose ways are the same, the groups gone on to have the same names,
as often in the one as in the other, and the calls made for a name give up equally often.
-/

namespace Gamebook.Analysis

open Gamebook.Document Gamebook.Story

/-! ### Lists told apart by keys -/

/-- Where two lists have the same keys, as often, values that depend on the key only are the same, as
often. -/
theorem map_perm_map_of_keys {α β κ ι : Type} {key : α → κ} {key' : β → κ} {f : α → ι} {f' : β → ι} :
    ∀ {items : List α} {others : List β}, (items.map key).Perm (others.map key') →
      (∀ a ∈ items, ∀ b ∈ others, key a = key' b → f a = f' b) →
      (items.map f).Perm (others.map f')
  | [], others, keys, _ => by
    rw [List.map_nil, List.nil_perm, List.map_eq_nil_iff] at keys
    rw [keys]
    exact List.Perm.nil
  | a :: items, others, keys, agree => by
    have member : key a ∈ others.map key' := keys.mem_iff.1 List.mem_cons_self
    obtain ⟨b, there, same⟩ := List.mem_map.1 member
    obtain ⟨before, after, rfl⟩ := List.append_of_mem there
    have rest : (items.map key).Perm ((before ++ after).map key') := by
      rw [List.map_cons, List.map_append, List.map_cons, same] at keys
      rw [List.map_append]
      exact (keys.trans List.perm_middle).cons_inv
    have value : f a = f' b := agree a List.mem_cons_self b there same.symm
    have ih := map_perm_map_of_keys rest fun x member y member' =>
      agree x (List.mem_cons_of_mem _ member) y
        (List.mem_append.2 ((List.mem_append.1 member').imp_right (List.mem_cons_of_mem _)))
    rw [List.map_cons, List.map_append, List.map_cons, value]
    rw [List.map_append] at ih
    exact (ih.cons _).trans List.perm_middle.symm

variable {graph other : Graph}

/-! ### Loops and ways -/

theorem Enterable.of_reorders (reorders : graph.Reorders other) {cycle : List String}
    (h : Enterable graph cycle) : Enterable other cycle where
  nonempty := h.nonempty
  distinct := h.distinct
  linked := reorders.links_eq ▸ h.linked
  goesOn := reorders.isEnding_eq ▸ h.goesOn
  entered := by
    have outside : PassesOutside graph cycle = PassesOutside other cycle := by
      funext name next
      rw [PassesOutside, PassesOutside, reorders.passes_eq]
    rw [← outside, ← reorders.startsAt_eq, ← reorders.mayReturnTo_eq]
    exact h.entered

/-- **The loops are the same.** -/
theorem mem_canonicals_iff_of_reorders (wf : graph.WellFormed) (wf' : other.WellFormed)
    (reorders : graph.Reorders other) {names : List String} :
    names ∈ (findLoops graph).map (·.canonical) ↔ names ∈ (findLoops other).map (·.canonical) := by
  rw [mem_canonicals_findLoops_iff wf, mem_canonicals_findLoops_iff wf']
  constructor
  · rintro ⟨cycle, enterable, rfl⟩
    exact ⟨cycle, enterable.of_reorders reorders, rfl⟩
  · rintro ⟨cycle, enterable, rfl⟩
    exact ⟨cycle, enterable.of_reorders reorders.symm, rfl⟩

theorem Admissible.of_reorders (reorders : graph.Reorders other) {names : List String}
    (way : Admissible graph names) : Admissible other names where
  started := reorders.startsAt_eq ▸ way.started
  follows := by
    intro walked name next rest split
    have follows := way.follows walked name next rest split
    rw [MayFollow, reorders.passes_eq, reorders.mayReturnTo_eq] at follows
    exact follows

theorem admissible_iff_of_reorders (reorders : graph.Reorders other) {names : List String} :
    Admissible graph names ↔ Admissible other names :=
  ⟨.of_reorders reorders, .of_reorders reorders.symm⟩

theorem complete_iff_of_reorders (reorders : graph.Reorders other) {names : List String} :
    Complete graph names ↔ Complete other names := by
  rw [Complete, Complete, reorders.isEnding_eq, reorders.links_eq]

/-! ### Two searches side by side -/

/-- Groups that are found under one name differ in the order of their variants at most. -/
theorem reorders_of_name_eq (reorders : graph.Reorders other) {a b : Group}
    (found : graph.find? a.name = some a) (found' : other.find? b.name = some b)
    (same : a.name = b.name) : a.Reorders b := by
  obtain ⟨b', there, related⟩ := reorders.exists_find? found
  rw [same, found', Option.some.injEq] at there
  exact there ▸ related

/-- **At the same way, the same groups are gone on to**, each as often. -/
theorem map_name_admissible_perm (wf : graph.WellFormed) (wf' : other.WellFormed)
    (reorders : graph.Reorders other) {before before' : List Node} {shown shown' : Node}
    {group group' : Group} (stands : Stands graph before group) (stands' : Stands other before' group')
    (first : group.variants.head? = some shown) (first' : group'.variants.head? = some shown')
    (same : wayTo before group = wayTo before' group') :
    ((admissible graph (shown :: before) group).map (·.name)).Perm
      ((admissible other (shown' :: before') group').map (·.name)) := by
  have here := wf.group_eq stands.found (List.mem_of_mem_head? first)
  have here' := wf'.group_eq stands'.found (List.mem_of_mem_head? first')
  have names : group.name = group'.name :=
    List.singleton_inj.1 (List.append_inj' same rfl).2
  have related := reorders_of_name_eq reorders stands.found stands'.found names
  rw [map_name_admissible wf here, map_name_admissible wf' here', same, reorders.contains_eq,
    reorders.mayReturnTo_eq]
  exact (related.variants.flatMap_right _).filter _

/-- Searches that give up equally often do so in any order. -/
theorem cutoffs_join_eq_of_perm {searches others : List PlaythroughSearch}
    (perm : (searches.map (·.cutoffs)).Perm (others.map (·.cutoffs))) :
    (PlaythroughSearch.join searches).cutoffs = (PlaythroughSearch.join others).cutoffs := by
  have adds : ∀ searches : List PlaythroughSearch,
      (PlaythroughSearch.join searches).cutoffs = (searches.map (·.cutoffs)).sum := by
    intro searches
    induction searches with
    | nil => rfl
    | cons search rest ih =>
      rw [List.map_cons, List.sum_cons, ← ih]
      rfl
  rw [adds, adds]
  exact perm.sum_nat

/-- **Calls at the same way give up equally often.** -/
theorem cutoffs_continueInto_eq (wf : graph.WellFormed) (wf' : other.WellFormed)
    (reorders : graph.Reorders other) {room : Nat} {before : List Node} {group : Group}
    (stands : Stands graph before group) :
    ∀ {before' : List Node} {group' : Group}, Stands other before' group' →
      wayTo before group = wayTo before' group' →
      (continueInto graph room before group).cutoffs =
        (continueInto other room before' group').cutoffs := by
  induction room, before, group, stands using Stands.induction wf with
  | ends room before group stands shown first complete =>
    intro before' group' stands' same
    obtain ⟨shown', first'⟩ := stands'.exists_shown wf'
    have complete' : Complete other (wayTo before' group') := by
      rw [← same]
      exact (complete_iff_of_reorders reorders).1 complete
    rw [continueInto_of_complete stands.found first complete,
      continueInto_of_complete stands'.found first' complete']
  | noRoom before group stands shown first incomplete =>
    intro before' group' stands' same
    obtain ⟨shown', first'⟩ := stands'.exists_shown wf'
    have incomplete' : ¬ Complete other (wayTo before' group') := by
      rw [← same, ← complete_iff_of_reorders reorders]
      exact incomplete
    rw [continueInto_zero stands.found first incomplete,
      continueInto_zero stands'.found first' incomplete']
    have names := map_name_admissible_perm wf wf' reorders stands stands' first first' same
    show (List.flatMap _ _).length = (List.flatMap _ _).length
    rw [List.length_flatMap, List.length_flatMap]
    refine (map_perm_map_of_keys names fun a member b member' name => ?_).sum_nat
    have found := find?_of_mem_admissible wf member
    have found' := find?_of_mem_admissible wf' member'
    exact (reorders_of_name_eq reorders found found' name).variants.length_eq
  | goesOn room before group stands shown first incomplete ih =>
    intro before' group' stands' same
    obtain ⟨shown', first'⟩ := stands'.exists_shown wf'
    have incomplete' : ¬ Complete other (wayTo before' group') := by
      rw [← same, ← complete_iff_of_reorders reorders]
      exact incomplete
    rw [continueInto_succ stands.found first incomplete,
      continueInto_succ stands'.found first' incomplete']
    have names := map_name_admissible_perm wf wf' reorders stands stands' first first' same
    -- each name is gone on to once, so that the names decide how often
    have once : ((firstBy (·.name) (admissible graph (shown :: before) group)).map (·.name)).Perm
        ((firstBy (·.name) (admissible other (shown' :: before') group')).map (·.name)) := by
      refine (List.perm_ext_iff_of_nodup ?_ ?_).2 fun name => ?_
      · exact List.pairwise_map.2 (pairwise_firstBy _ _)
      · exact List.pairwise_map.2 (pairwise_firstBy _ _)
      · rw [mem_map_firstBy, mem_map_firstBy, names.mem_iff]
    refine cutoffs_join_eq_of_perm ?_
    rw [List.map_map, List.map_map]
    refine map_perm_map_of_keys once fun a member b member' name => ?_
    have taken := (mem_firstBy_admissible_iff wf).1 member
    have taken' := (mem_firstBy_admissible_iff wf').1 member'
    have onward' := isEnding_eq_false_of_not_complete stands'.found incomplete'
    refine ih a taken (stands'.step wf' first' onward' taken') ?_
    rw [wayTo_cons a (wf.group_eq stands.found (List.mem_of_mem_head? first)),
      wayTo_cons b (wf'.group_eq stands'.found (List.mem_of_mem_head? first')), same, name]

theorem mem_map_name_startGroups_iff (wf : graph.WellFormed) {name : String} :
    name ∈ graph.startGroups.map (·.name) ↔ graph.startsAt name = true := by
  rw [List.mem_map]
  constructor
  · rintro ⟨group, start, rfl⟩
    obtain ⟨name, found, starts⟩ := Graph.mem_startGroups_iff.1 start
    rw [wf.name_eq found]
    exact starts
  · intro starts
    obtain ⟨group, found, -⟩ := Graph.startsAt_iff.1 starts
    exact ⟨group, Graph.mem_startGroups_iff.2 ⟨name, found, starts⟩, wf.name_eq found⟩

/-- **Equally much is given up.** -/
theorem cutoffs_searchPlaythroughs_eq (wf : graph.WellFormed) (wf' : other.WellFormed)
    (reorders : graph.Reorders other) :
    (searchPlaythroughs graph).cutoffs = (searchPlaythroughs other).cutoffs := by
  rw [searchPlaythroughs, searchPlaythroughs, reorders.groupCount_eq]
  have names : (graph.startGroups.map (·.name)).Perm (other.startGroups.map (·.name)) := by
    refine (List.perm_ext_iff_of_nodup ?_ ?_).2 fun name => ?_
    · exact List.pairwise_map.2 (pairwise_name_startGroups wf)
    · exact List.pairwise_map.2 (pairwise_name_startGroups wf')
    · rw [mem_map_name_startGroups_iff wf, mem_map_name_startGroups_iff wf', reorders.startsAt_eq]
  refine cutoffs_join_eq_of_perm ?_
  rw [List.map_map, List.map_map]
  refine map_perm_map_of_keys names fun a start b start' same => ?_
  have stands := stands_of_mem_startGroups wf start
  have stands' := stands_of_mem_startGroups wf' start'
  refine cutoffs_continueInto_eq wf wf' reorders stands stands' ?_
  rw [wayTo, wayTo, same]

/-! ### Documents in another order -/

/-- Two graphs of which the analyses say the same. -/
structure AnalysedAlike (graph other : Graph) : Prop where
  starts : ∀ name, graph.startsAt name = other.startsAt name
  endings : ∀ name, graph.isEnding name = other.isEnding name
  unreachable : ∀ node, node ∈ unreachable graph ↔ node ∈ unreachable other
  loops : ∀ names,
    names ∈ (findLoops graph).map (·.canonical) ↔ names ∈ (findLoops other).map (·.canonical)
  escapable : ∀ names, names ∈ (classifyLoops graph).escapable.map (·.canonical) ↔
    names ∈ (classifyLoops other).escapable.map (·.canonical)
  inescapable : ∀ names, names ∈ (classifyLoops graph).inescapable.map (·.canonical) ↔
    names ∈ (classifyLoops other).inescapable.map (·.canonical)
  playthroughs : ∀ names, names ∈ (searchPlaythroughs graph).playthroughs.map (·.groupNames) ↔
    names ∈ (searchPlaythroughs other).playthroughs.map (·.groupNames)
  cutoffs : (searchPlaythroughs graph).cutoffs = (searchPlaythroughs other).cutoffs

/-- **Graphs that differ in the order of variants are analysed alike.** -/
theorem analysedAlike_of_reorders (wf : graph.WellFormed) (wf' : other.WellFormed)
    (distinct : (graph.nodes.map (·.sourceId)).Nodup)
    (distinct' : (other.nodes.map (·.sourceId)).Nodup) (reorders : graph.Reorders other) :
    AnalysedAlike graph other where
  starts := congrFun reorders.startsAt_eq
  endings := congrFun reorders.isEnding_eq
  unreachable := by
    intro node
    rw [mem_unreachable_iff wf distinct, mem_unreachable_iff wf' distinct', reorders.mem_nodes_iff,
      reorders.reached_iff]
  loops := fun _ => mem_canonicals_iff_of_reorders wf wf' reorders
  escapable := by
    intro names
    rw [mem_escapable_iff wf, mem_escapable_iff wf', mem_canonicals_iff_of_reorders wf wf' reorders]
    simp only [reorders.canEnd_iff]
  inescapable := by
    intro names
    rw [mem_inescapable_iff wf, mem_inescapable_iff wf',
      mem_canonicals_iff_of_reorders wf wf' reorders]
    simp only [reorders.canEnd_iff]
  playthroughs := by
    intro names
    rw [mem_searchPlaythroughs_iff wf, mem_searchPlaythroughs_iff wf',
      admissible_iff_of_reorders reorders, complete_iff_of_reorders reorders,
      reorders.groupCount_eq]
  cutoffs := cutoffs_searchPlaythroughs_eq wf wf' reorders

/-- **The order of the documents does not matter.**  In whatever order documents with ids of their own are
read, the groups have the same names, each may be entered again or not, and each is divergent or not.  If
none is divergent, the analyses of the two graphs say the same. -/
theorem ofSources_analysedAlike (revisitDefault : Bool) {sources others : List Source}
    (perm : sources.Perm others) (distinct : (sources.map (·.sourceId)).Nodup) :
    (Graph.ofSources revisitDefault sources).table.names =
        (Graph.ofSources revisitDefault others).table.names ∧
      (∀ name, ((Graph.ofSources revisitDefault sources).find? name).map (·.revisit) =
        ((Graph.ofSources revisitDefault others).find? name).map (·.revisit)) ∧
      (∀ name, ((Graph.ofSources revisitDefault sources).find? name).map (·.divergent) =
        ((Graph.ofSources revisitDefault others).find? name).map (·.divergent)) ∧
      ((∀ group ∈ (Graph.ofSources revisitDefault sources).groups, group.divergent = false) →
        AnalysedAlike (.ofSources revisitDefault sources) (.ofSources revisitDefault others)) := by
  have history : (sources.map (insertionOf revisitDefault)).Perm
      (others.map (insertionOf revisitDefault)) := perm.map _
  have default : ∀ step ∈ sources.map (insertionOf revisitDefault),
      step.revisitDefault = revisitDefault := by
    intro step member
    obtain ⟨source, -, rfl⟩ := List.mem_map.1 member
    rfl
  have ids : ((sources.map (insertionOf revisitDefault)).map (·.node.sourceId)).Nodup := by
    rw [List.map_map]
    exact distinct
  have ids' := ((history.map (·.node.sourceId)).nodup_iff).1 ids
  have revisit := Graph.map_find?_eq_of_perm history default
    fun into => Graph.revisit_groupOf_of_perm into
  refine ⟨?_, revisit, ?_, fun agreed => ?_⟩
  · refine NameTable.names_eq_of_isSome_eq fun name => ?_
    have h := congrArg Option.isSome (revisit name)
    rw [Option.isSome_map, Option.isSome_map] at h
    exact h
  · exact Graph.map_find?_eq_of_perm history default fun into => Graph.divergent_groupOf_of_perm into
  · exact analysedAlike_of_reorders (Graph.wellFormed_ofInsertions _)
      (Graph.wellFormed_ofInsertions _) (Graph.nodup_sourceIds_of_history ids)
      (Graph.nodup_sourceIds_of_history ids') (Graph.reorders_of_perm history default agreed)

/-- A gate from which one comes to a yard by day or by night, and from there back or on to a keep. -/
def gateByDayAndNight : List Source :=
  [.ofId "gate.md" "---\nstart: true\nchoices:\n  In: yard\n---\nA gate.",
   .ofId "yard/day.md" "---\nchoices:\n  On: keep\n---\nA yard.",
   .ofId "yard/night.md" "---\nchoices:\n  Back: gate\n---\nDarkness.",
   .ofId "keep.md" "---\nend: true\n---\nA keep."]

theorem analysedAlike_gateByDayAndNight :
    gateByDayAndNight.Perm gateByDayAndNight.reverse ∧
      (gateByDayAndNight.map (·.sourceId)).Nodup ∧
      (∀ group ∈ (Graph.ofSources true gateByDayAndNight).groups, group.divergent = false) ∧
      AnalysedAlike (.ofSources true gateByDayAndNight)
        (.ofSources true gateByDayAndNight.reverse) := by
  have perm : gateByDayAndNight.Perm gateByDayAndNight.reverse := (List.reverse_perm _).symm
  have distinct : (gateByDayAndNight.map (·.sourceId)).Nodup := by decide
  have agreed : ∀ group ∈ (Graph.ofSources true gateByDayAndNight).groups,
      group.divergent = false := by decide +kernel
  exact ⟨perm, distinct, agreed, (ofSources_analysedAlike true perm distinct).2.2.2 agreed⟩

end Gamebook.Analysis
