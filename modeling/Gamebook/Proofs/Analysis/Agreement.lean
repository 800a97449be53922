import Gamebook.Proofs.Analysis.Escape
import Gamebook.Proofs.Analysis.Playthrough
import Gamebook.Proofs.Analysis.Reach

/-!
# The three searches agree

The search for what is reached, the loop search and the search for playthroughs are three walks over one
graph, and no two of them go the same way.  The first goes from variant to variant and never looks at one
again.  The second follows the choices of a single variant and stops where a group repeats.  The third
follows the choices of all variants of a group, goes round loops, and stops when a way gets too long.
This file says how what they find fits together.

## Repetitions

A playthrough may come back to a group.  Up to where that happens for the first time it is a way that the
loop search can follow: a simple way to a group and from there once round (`Admissible.exists_lasso`).
So the loop search has the loop that the playthrough walked, although it asks whether a group may be
entered again at another moment.  And where it has no loop, no way comes back to a group, hence none has
more groups than there are, and none is given up.

## Reach

Nothing that the other two searches come to is out of reach, since both go along choices from a start.
Conversely a group that a reader can come to lies on a way without detours.  Such a way enters no group
twice and is no longer than the number of groups.  So neither the groups that must not be entered again
nor the bound on the length of a way can hide it from the search for playthroughs.
-/

namespace Gamebook.Analysis

open Gamebook.Story

variable {graph : Graph}

/-! ### The first repetition on a way -/

/-- Position `k` of a list of names is the first that holds a name which occurs before, and the name
occurs at position `i`. -/
structure FirstRepetition (names : List String) (i k : Nat) : Prop where
  earlier : i < k
  within : k < names.length
  repeats : names[k]? = names[i]?
  /-- Before position `k` no name occurs twice. -/
  distinct : (names.take k).Nodup

/-- **Where names repeat, there is a first repetition.** -/
theorem exists_firstRepetition {names : List String} (repeats : ¬ names.Nodup) :
    ∃ i k, FirstRepetition names i k := by
  induction names using List.reverseRecOn with
  | nil => exact absurd List.nodup_nil repeats
  | append_singleton names last ih =>
    by_cases distinct : names.Nodup
    · have member : last ∈ names := by
        by_contra fresh
        refine repeats (List.nodup_append.2 ⟨distinct, List.nodup_singleton _, ?_⟩)
        rintro name old other new rfl
        exact fresh (List.mem_singleton.1 new ▸ old)
      obtain ⟨i, inside, same⟩ := List.getElem_of_mem member
      refine ⟨i, names.length, inside, ?_, ?_, ?_⟩
      · rw [List.length_append, List.length_singleton]
        omega
      · rw [List.getElem?_concat_length, List.getElem?_append_left inside,
          List.getElem?_eq_getElem inside, same]
      · rwa [List.take_left]
    · obtain ⟨i, k, first⟩ := ih distinct
      have earlier := first.earlier
      have within := first.within
      refine ⟨i, k, earlier, ?_, ?_, ?_⟩
      · rw [List.length_append]
        omega
      · rw [List.getElem?_append_left within, List.getElem?_append_left (by omega), first.repeats]
      · rw [List.take_append_of_le_length within.le]
        exact first.distinct

/-- The list cut at the two occurrences of the name that repeats first. -/
theorem FirstRepetition.exists_split {names : List String} {i k : Nat}
    (first : FirstRepetition names i k) :
    ∃ approach entry rest after, names = approach ++ entry :: rest ++ entry :: after ∧
      (names.take k).drop i = entry :: rest ∧ (approach ++ entry :: rest).Nodup := by
  obtain ⟨earlier, within, repeats, distinct⟩ := first
  have inside : i < (names.take k).length := by
    rw [List.length_take]
    omega
  have same : (names.take k)[i] = names[k] := by
    rw [List.getElem?_eq_getElem within, List.getElem?_eq_getElem (by omega),
      Option.some.injEq] at repeats
    rw [List.getElem_take, repeats]
  have body : (names.take k).drop i = names[k] :: (names.take k).drop (i + 1) := by
    rw [List.drop_eq_getElem_cons inside, same]
  have before : (names.take k).take i ++ names[k] :: (names.take k).drop (i + 1) = names.take k := by
    rw [← body, List.take_append_drop]
  refine ⟨(names.take k).take i, names[k], (names.take k).drop (i + 1), names.drop (k + 1), ?_, body, ?_⟩
  · rw [before, ← List.drop_eq_getElem_cons within, List.take_append_drop]
  · rw [before]
    exact distinct

/-! ### The loop search has every loop of a way -/

/-- **Up to its first repetition a way is a lasso.** -/
theorem Admissible.exists_lasso {names : List String} (way : Admissible graph names) {i k : Nat}
    (first : FirstRepetition names i k) :
    ∃ approach entry rest, (names.take k).drop i = entry :: rest ∧
      Lasso graph approach entry rest := by
  obtain ⟨approach, entry, rest, after, split, body, distinct⟩ := first.exists_split
  have chain : (approach ++ entry :: rest ++ [entry]).IsChain graph.Passes := by
    have chain := way.isChain_passes
    rw [split, List.isChain_split] at chain
    exact chain.1
  refine ⟨approach, entry, rest, body, ?_, ?_, distinct, ?_, ?_⟩
  · obtain ⟨start, begins, starts⟩ := way.started
    refine ⟨start, ?_, starts⟩
    rw [← begins, split]
    cases approach <;> rfl
  · exact chain.imp fun name next passes => passes.2
  · intro name member
    obtain ⟨next, passes⟩ := exists_rel_of_mem_isChain chain name member
    exact passes.1
  · -- when the entry was entered again, it had been on the way
    obtain ⟨walked, last, before⟩ : ∃ walked last, approach ++ entry :: rest = walked ++ [last] :=
      ⟨_, _, (List.dropLast_concat_getLast (List.append_ne_nil_of_right_ne_nil _
        (List.cons_ne_nil _ _))).symm⟩
    have follows : MayFollow graph walked last entry := by
      refine way.follows walked last entry after ?_
      rw [split, before, List.append_assoc]
      rfl
    refine .inr (follows.2.resolve_right fun fresh => fresh ?_)
    rw [← before]
    exact List.mem_append_right _ List.mem_cons_self

/-- **The loop search has the loop that a way walks first.** -/
theorem Admissible.canonicalCycle_mem (wf : graph.WellFormed) {names : List String}
    (way : Admissible graph names) {i k : Nat} (first : FirstRepetition names i k) :
    canonicalCycle ((names.take k).drop i) ∈ (findLoops graph).map (·.canonical) := by
  obtain ⟨approach, entry, rest, body, lasso⟩ := way.exists_lasso first
  rw [body, mem_canonicals_findLoops_iff wf]
  exact ⟨entry :: rest, lasso.enterable, rfl⟩

/-- **Where no loop is found, no way comes back to a group.** -/
theorem Admissible.nodup_of_findLoops_eq_nil (wf : graph.WellFormed) (none : findLoops graph = [])
    {names : List String} (way : Admissible graph names) : names.Nodup := by
  by_contra repeats
  obtain ⟨i, k, first⟩ := exists_firstRepetition repeats
  have found := way.canonicalCycle_mem wf first
  rw [none] at found
  exact List.not_mem_nil found

theorem cutoffs_eq_zero_of_findLoops_eq_nil (wf : graph.WellFormed) (none : findLoops graph = []) :
    (searchPlaythroughs graph).cutoffs = 0 := by
  refine (cutoffs_searchPlaythroughs_eq_zero_iff wf).2 fun names way => ?_
  have short : names.length ≤ graph.groupCount :=
    Graph.length_le_groupCount (way.nodup_of_findLoops_eq_nil wf none) fun name => way.contains
  rw [routeLengthFactor]
  omega

theorem admissible_of_mem_playthroughs (wf : graph.WellFormed) {route : Playthrough}
    (member : route ∈ (searchPlaythroughs graph).playthroughs) : Admissible graph route.groupNames :=
  ((mem_searchPlaythroughs_iff wf).1 (List.mem_map_of_mem member)).1

/-- **The loop search covers every repetition of a playthrough.**  Whatever was inserted, a playthrough
that comes back to a group has a first repetition, and what it walked between the two occurrences is one
of the loops that are found.  If no loop is found, then no playthrough comes back to a group, and none is
given up. -/
theorem findLoops_covers_repetitions (history : List Graph.Insertion) :
    (∀ route ∈ (searchPlaythroughs (.ofInsertions history)).playthroughs,
      (¬ route.groupNames.Nodup → ∃ i k, FirstRepetition route.groupNames i k) ∧
        ∀ i k, FirstRepetition route.groupNames i k →
          ∃ found ∈ findLoops (.ofInsertions history),
            found.canonical = canonicalCycle ((route.groupNames.take k).drop i)) ∧
      (findLoops (.ofInsertions history) = [] →
        (∀ route ∈ (searchPlaythroughs (.ofInsertions history)).playthroughs,
          route.groupNames.Nodup) ∧
        (searchPlaythroughs (.ofInsertions history)).cutoffs = 0) := by
  have wf := Graph.wellFormed_ofInsertions history
  constructor
  · intro route member
    have way := admissible_of_mem_playthroughs wf member
    refine ⟨exists_firstRepetition, fun i k first => ?_⟩
    exact List.mem_map.1 (way.canonicalCycle_mem wf first)
  · intro none
    refine ⟨fun route member => ?_, cutoffs_eq_zero_of_findLoops_eq_nil wf none⟩
    exact (admissible_of_mem_playthroughs wf member).nodup_of_findLoops_eq_nil wf none

/-- A gate that must not be entered again, a yard told in two ways, from where one may go round or down
into a pit, and a tower that nobody comes to. -/
def gateAndPit : List Graph.Insertion :=
  [{ node :=
      { sourceId := "1", group := "gate", choices := .ofList [("In", "yard")], revisit? := some false }
     said := { start? := some true } },
   { node :=
      { sourceId := "2", group := "yard", choices := .ofList [("Back", "gate"), ("Round", "yard")] } },
   { node := { sourceId := "3", group := "yard", choices := .ofList [("Down", "pit")] } },
   { node := { sourceId := "4", group := "pit", choices := .ofList [("Up", "sky")] } },
   { node := { sourceId := "5", group := "tower" }, said := { ending? := some true } }]

theorem findLoops_covers_gateAndPit :
    ∃ route ∈ (searchPlaythroughs (.ofInsertions gateAndPit)).playthroughs,
      FirstRepetition route.groupNames 1 2 ∧
        ∃ found ∈ findLoops (.ofInsertions gateAndPit), found.canonical = ["yard", "yard"] := by
  have walked : ["gate", "yard", "yard", "pit"] ∈
      (searchPlaythroughs (.ofInsertions gateAndPit)).playthroughs.map (·.groupNames) := by
    decide +kernel
  obtain ⟨route, member, spells⟩ := List.mem_map.1 walked
  have first : FirstRepetition route.groupNames 1 2 := by
    rw [spells]
    exact ⟨by decide, by decide, by decide, by decide⟩
  obtain ⟨found, there, same⟩ := ((findLoops_covers_repetitions gateAndPit).1 route member).2 1 2 first
  rw [spells] at same
  exact ⟨route, member, first, found, there, same⟩

/-! ### Nothing that is walked is out of reach -/

/-- A reader can come to every group of a lasso. -/
theorem Lasso.reached {approach : List String} {entry : String} {rest : List String}
    (lasso : Lasso graph approach entry rest) {name : String} (member : name ∈ entry :: rest) :
    graph.Reached name := by
  obtain ⟨start, begins, starts⟩ := lasso.started
  have linked : (approach ++ entry :: rest).IsChain graph.Links := lasso.linked.left_of_append
  have chain : (approach ++ entry :: rest).IsChain graph.Passes := by
    refine List.IsChain.imp_of_mem_imp ?_ linked
    exact fun name next onWay _ links => ⟨lasso.goesOn name onWay, links⟩
  have first : (approach ++ entry :: rest).head? = some start := by
    rw [← begins]
    cases approach <;> rfl
  exact (Graph.Reached.start starts).of_mem_isChain chain first name (List.mem_append_right _ member)

/-- **A reader can come to every variant on a loop.** -/
theorem reached_of_mem_findLoops (wf : graph.WellFormed) {found : Loop}
    (member : found ∈ findLoops graph) {node : Node} (onLoop : node ∈ found.nodes) :
    graph.Reached node.group := by
  obtain ⟨p, walked, closes⟩ := exists_closes_of_mem_findLoopsWithin wf member
  obtain ⟨approach, entry, rest, lasso, same⟩ := exists_lasso_of_closes walked closes
  refine lasso.reached (mem_canonicalCycle.1 ?_)
  rw [← same, ← groups_of_mem_findLoops wf member]
  exact List.mem_map_of_mem onLoop

/-- **A reader can come to every variant on a playthrough.** -/
theorem reached_of_mem_playthroughs (wf : graph.WellFormed) {route : Playthrough}
    (member : route ∈ (searchPlaythroughs graph).playthroughs) {node : Node}
    (onRoute : node ∈ route.nodes) : graph.Reached node.group :=
  (admissible_of_mem_playthroughs wf member).reached (List.mem_map_of_mem onRoute)

theorem notMem_unreachable_of_reached (wf : graph.WellFormed)
    (distinct : (graph.nodes.map (·.sourceId)).Nodup) {node : Node}
    (reached : graph.Reached node.group) : node ∉ unreachable graph :=
  fun missed => ((mem_unreachable_iff wf distinct).1 missed).2 reached

/-! ### Ends that are in reach -/

/-- Nothing follows the group on a way: the story ends there, or no choice of a variant names a group
that exists. -/
def IsTerminal (graph : Graph) (group : Group) : Prop :=
  group.isEnding = true ∨
    ∀ node ∈ group.variants, ∀ target ∈ node.targets, graph.contains target = false

instance (graph : Graph) (group : Group) : Decidable (IsTerminal graph group) :=
  inferInstanceAs (Decidable (_ ∨ _))

theorem IsTerminal.ends {group : Group} (terminal : IsTerminal graph group) {name : String}
    (found : graph.find? name = some group) :
    graph.isEnding name = true ∨ ∀ next, ¬ graph.Links name next := by
  refine terminal.imp (Graph.isEnding_of_find? found).trans fun silent next links => ?_
  obtain ⟨there, target⟩ := (Graph.links_iff_of_find? found).1 links
  obtain ⟨node, variant, choice⟩ := List.mem_flatMap.1 target
  rw [silent node variant next choice] at there
  exact absurd there (by decide)

/-- **A reader can come to an end exactly when a playthrough ends there.** -/
theorem reached_iff_exists_playthrough (wf : graph.WellFormed) {group : Group} {name : String}
    (found : graph.find? name = some group) (terminal : IsTerminal graph group) :
    graph.Reached name ↔ ∃ route ∈ (searchPlaythroughs graph).playthroughs,
      route.groupNames.getLast? = some name := by
  constructor
  · intro reached
    obtain ⟨names, member⟩ := exists_playthrough_of_reached wf reached (terminal.ends found)
    obtain ⟨route, there, spells⟩ := List.mem_map.1 member
    exact ⟨route, there, by rw [spells, List.getLast?_concat]⟩
  · rintro ⟨route, member, last⟩
    exact (admissible_of_mem_playthroughs wf member).reached (List.mem_of_getLast? last)

/-- All variants of a group are in reach exactly when a reader can come to it. -/
theorem forall_notMem_unreachable_iff (wf : graph.WellFormed)
    (distinct : (graph.nodes.map (·.sourceId)).Nodup) {group : Group} {name : String}
    (found : graph.find? name = some group) :
    (∀ node ∈ group.variants, node ∉ unreachable graph) ↔ graph.Reached name := by
  constructor
  · intro present
    obtain ⟨node, variant⟩ := List.exists_mem_of_ne_nil _ (wf.variants_ne_nil found)
    by_contra unreached
    refine present node variant ((mem_unreachable_iff wf distinct).2 ⟨?_, ?_⟩)
    · exact Graph.mem_nodes_of_find? found variant
    · rw [wf.group_eq found variant]
      exact unreached
  · intro reached node variant
    refine notMem_unreachable_of_reached wf distinct ?_
    rw [wf.group_eq found variant]
    exact reached

/-- **Reach agrees with both other searches.**  In a story of which every document has an id of its own,
no variant on a loop or on a playthrough is out of reach.  And a group where nothing follows is in reach
exactly when a playthrough ends there, whatever may be entered again and although long ways are given
up. -/
theorem unreachable_agrees_with_searches (history : List Graph.Insertion)
    (distinct : (history.map (·.node.sourceId)).Nodup) :
    (∀ found ∈ findLoops (.ofInsertions history), ∀ node ∈ found.nodes,
        node ∉ unreachable (.ofInsertions history)) ∧
      (∀ route ∈ (searchPlaythroughs (.ofInsertions history)).playthroughs, ∀ node ∈ route.nodes,
        node ∉ unreachable (.ofInsertions history)) ∧
      ∀ group ∈ (Graph.ofInsertions history).groups, IsTerminal (.ofInsertions history) group →
        ((∀ node ∈ group.variants, node ∉ unreachable (.ofInsertions history)) ↔
          ∃ route ∈ (searchPlaythroughs (.ofInsertions history)).playthroughs,
            route.groupNames.getLast? = some group.name) := by
  have wf := Graph.wellFormed_ofInsertions history
  have ids := Graph.nodup_sourceIds_of_history distinct
  refine ⟨?_, ?_, ?_⟩
  · intro found member node onLoop
    exact notMem_unreachable_of_reached wf ids (reached_of_mem_findLoops wf member onLoop)
  · intro route member node onRoute
    exact notMem_unreachable_of_reached wf ids (reached_of_mem_playthroughs wf member onRoute)
  · intro group member terminal
    obtain ⟨name, found⟩ := Graph.mem_groups_iff.1 member
    obtain rfl : group.name = name := wf.name_eq found
    rw [forall_notMem_unreachable_iff wf ids found, reached_iff_exists_playthrough wf found terminal]

theorem unreachable_agrees_gateAndPit :
    (gateAndPit.map (·.node.sourceId)).Nodup ∧
      ∃ pit ∈ (Graph.ofInsertions gateAndPit).groups, pit.name = "pit" ∧
        IsTerminal (.ofInsertions gateAndPit) pit ∧
        (∀ node ∈ pit.variants, node ∉ unreachable (.ofInsertions gateAndPit)) ∧
        ∃ route ∈ (searchPlaythroughs (.ofInsertions gateAndPit)).playthroughs,
          route.groupNames.getLast? = some pit.name := by
  have distinct : (gateAndPit.map (·.node.sourceId)).Nodup := by decide
  have gate : (Graph.ofInsertions gateAndPit).Reached "gate" := .start (by decide)
  have yard : (Graph.ofInsertions gateAndPit).Reached "yard" := gate.next (by decide)
  have reached : (Graph.ofInsertions gateAndPit).Reached "pit" := yard.next (by decide)
  obtain ⟨pit, found⟩ := Graph.contains_iff.1
    (by decide : (Graph.ofInsertions gateAndPit).contains "pit" = true)
  have wf := Graph.wellFormed_ofInsertions gateAndPit
  have member := Graph.mem_groups_iff.2 ⟨"pit", found⟩
  have terminal : IsTerminal (.ofInsertions gateAndPit) pit :=
    (by decide : ∀ group ∈ (Graph.ofInsertions gateAndPit).groups, group.name = "pit" →
      IsTerminal (.ofInsertions gateAndPit) group) pit member (wf.name_eq found)
  have present : ∀ node ∈ pit.variants, node ∉ unreachable (.ofInsertions gateAndPit) :=
    (forall_notMem_unreachable_iff wf (Graph.nodup_sourceIds_of_history distinct) found).2 reached
  exact ⟨distinct, pit, member, wf.name_eq found, terminal, present,
    ((unreachable_agrees_with_searches gateAndPit distinct).2.2 pit member terminal).1 present⟩

end Gamebook.Analysis
