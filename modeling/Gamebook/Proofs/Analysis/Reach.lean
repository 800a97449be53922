import Gamebook.Analysis.Reach
import Gamebook.Proofs.Story.Route
import Mathlib.Data.List.Flatten
import Mathlib.Logic.Function.Iterate
import Mathlib.Order.Bounds.Basic

/-!
# Reach is the least closed set

`unreachable` lists the variants that a worklist search does not come to.  This file says which they are
without the search: the variants of the groups that are not in the least set with every start group and
with every group that is passed to from it (`Graph.Reached`).

## What the search keeps

Two things are kept from round to round, and either gives one direction.

* Whatever is visited or on the stack is reached (`forall_mem_visitAll`), since what is pushed follows
  what was reached.
* Whatever follows a visited variant is visited or on the stack (`closed_visitAll`).  When the stack is
  empty, the visited variants are closed, and a closed set that holds the starts holds all that is
  reached.

The search marks source ids, not variants.  For the second statement an id must stand for one variant:
otherwise one variant would mark another as visited whose choices were never looked at.

## Why the rounds end

The stack may grow in a round, and the same variant may be pushed again and again.  But an id is marked
only once, so what follows a variant is pushed only once, and every round takes one variant off the
stack.  There are therefore no more rounds than variants at the start and variants that follow the
variants of the graph, taken together (`exists_rounds`).
-/

namespace Gamebook.Analysis

open Gamebook.Story

variable {graph : Graph}

/-! ### One round of the search -/

/-- What follows a variant: nothing after an ending, otherwise every variant of a group that one of its
choices names. -/
theorem mem_pushed_iff {node next : Node} :
    next ∈ pushed graph node ↔
      graph.isEnding node.group = false ∧
        ∃ target ∈ node.targets, ∃ group, graph.find? target = some group ∧
          next ∈ group.variants := by
  rw [pushed]
  split
  · next ends => simp [ends]
  · next goesOn =>
    rw [List.mem_reverse, List.mem_flatMap, Bool.not_eq_true] at *
    constructor
    · rintro ⟨group, successor, variant⟩
      obtain ⟨target, choice, found⟩ := Graph.mem_successors_iff.1 successor
      exact ⟨goesOn, target, choice, group, found, variant⟩
    · rintro ⟨-, target, choice, group, found, variant⟩
      exact ⟨group, Graph.mem_successors_iff.2 ⟨target, choice, found⟩, variant⟩

theorem passes_of_mem_pushed (wf : graph.WellFormed) {node next : Node}
    (member : node ∈ graph.nodes) (follows : next ∈ pushed graph node) :
    graph.Passes node.group next.group := by
  obtain ⟨goesOn, target, choice, group, found, variant⟩ := mem_pushed_iff.1 follows
  obtain ⟨name, own, foundOwn, ownVariant⟩ := Graph.mem_nodes_iff.1 member
  have named : node.group = name := wf.group_eq foundOwn ownVariant
  have nextNamed : next.group = target := wf.group_eq found variant
  subst named nextNamed
  exact ⟨goesOn, Graph.contains_of_find? found, own, foundOwn, node, ownVariant, choice⟩

/-! ### What the rounds keep -/

theorem mem_visitAll_of_mem_visited {visited : List String} {stack : List Node}
    (inGraph : ∀ node ∈ stack, node ∈ graph.nodes) {id : String} (h : id ∈ visited) :
    id ∈ visitAll graph visited stack inGraph := by
  fun_induction visitAll graph visited stack inGraph with
  | case1 visited => exact h
  | case2 visited node rest inGraph old inGraphRest ih => exact ih h
  | case3 visited node rest inGraph fresh inGraphNext ih => exact ih (List.mem_cons_of_mem _ h)

theorem mem_visitAll_of_mem_stack {visited : List String} {stack : List Node}
    (inGraph : ∀ node ∈ stack, node ∈ graph.nodes) {node : Node} (h : node ∈ stack) :
    node.sourceId ∈ visitAll graph visited stack inGraph := by
  fun_induction visitAll graph visited stack inGraph with
  | case1 visited => exact absurd h List.not_mem_nil
  | case2 visited next rest inGraph old inGraphRest ih =>
    rcases List.mem_cons.1 h with rfl | h
    · exact mem_visitAll_of_mem_visited _ old
    · exact ih h
  | case3 visited next rest inGraph fresh inGraphNext ih =>
    rcases List.mem_cons.1 h with rfl | h
    · exact mem_visitAll_of_mem_visited _ List.mem_cons_self
    · exact ih (List.mem_append_right _ h)

/-- **Only what can be come to is visited**: a property of the variants on the stack that passes from a
variant to those that follow it holds of some variant behind every id that is visited. -/
theorem forall_mem_visitAll {P : Node → Prop}
    (step : ∀ node next, P node → next ∈ pushed graph node → P next)
    {visited : List String} {stack : List Node} (inGraph : ∀ node ∈ stack, node ∈ graph.nodes)
    (before : ∀ id ∈ visited, ∃ node, P node ∧ node.sourceId = id)
    (waiting : ∀ node ∈ stack, P node) :
    ∀ id ∈ visitAll graph visited stack inGraph, ∃ node, P node ∧ node.sourceId = id := by
  fun_induction visitAll graph visited stack inGraph with
  | case1 visited => exact before
  | case2 visited node rest inGraph old inGraphRest ih =>
    exact ih before fun other h => waiting other (List.mem_cons_of_mem _ h)
  | case3 visited node rest inGraph fresh inGraphNext ih =>
    have here : P node := waiting node List.mem_cons_self
    refine ih ?_ ?_
    · intro id h
      rcases List.mem_cons.1 h with rfl | h
      · exact ⟨node, here, rfl⟩
      · exact before id h
    · intro other h
      rcases List.mem_append.1 h with h | h
      · exact step node other here h
      · exact waiting other (List.mem_cons_of_mem _ h)

/-- **What is visited is closed**: what follows a visited variant is visited, if all of it was visited or
on the stack. -/
theorem closed_visitAll (distinct : (graph.nodes.map (·.sourceId)).Nodup)
    {visited : List String} {stack : List Node} (inGraph : ∀ node ∈ stack, node ∈ graph.nodes)
    (looked : ∀ node ∈ graph.nodes, node.sourceId ∈ visited → ∀ next ∈ pushed graph node,
      next.sourceId ∈ visited ∨ next ∈ stack) :
    ∀ node ∈ graph.nodes, node.sourceId ∈ visitAll graph visited stack inGraph →
      ∀ next ∈ pushed graph node, next.sourceId ∈ visitAll graph visited stack inGraph := by
  fun_induction visitAll graph visited stack inGraph with
  | case1 visited =>
    intro node member old next follows
    exact (looked node member old next follows).resolve_right List.not_mem_nil
  | case2 visited node rest inGraph old inGraphRest ih =>
    refine ih fun other member seen next follows => ?_
    rcases looked other member seen next follows with h | h
    · exact .inl h
    · rcases List.mem_cons.1 h with rfl | h
      · exact .inl old
      · exact .inr h
  | case3 visited node rest inGraph fresh inGraphNext ih =>
    refine ih fun other member seen next follows => ?_
    rcases List.mem_cons.1 seen with same | seen
    · -- the id was new, and it is that of no other variant
      have equal : other = node :=
        List.inj_on_of_nodup_map distinct member (inGraph node List.mem_cons_self) same
      exact .inr (List.mem_append_left _ (equal ▸ follows))
    · rcases looked other member seen next follows with h | h
      · exact .inl (List.mem_cons_of_mem _ h)
      · rcases List.mem_cons.1 h with rfl | h
        · exact .inl List.mem_cons_self
        · exact .inr (List.mem_append_right _ h)

/-! ### The variants that are reached -/

/-- The ids that are reached are those of variants whose groups are. -/
theorem exists_reached_of_mem_reachedIds (wf : graph.WellFormed) {id : String}
    (h : id ∈ reachedIds graph) :
    ∃ node ∈ graph.nodes, graph.Reached node.group ∧ node.sourceId = id := by
  obtain ⟨node, ⟨member, reached⟩, same⟩ := forall_mem_visitAll
    (P := fun node => node ∈ graph.nodes ∧ graph.Reached node.group)
    (fun node next h follows => ⟨mem_nodes_of_mem_pushed follows,
      h.2.next (passes_of_mem_pushed wf h.1 follows)⟩)
    _ (fun id h => absurd h List.not_mem_nil)
    (fun node h => by
      rw [List.mem_reverse] at h
      obtain ⟨name, group, found, starts, variant⟩ := Graph.mem_startNodes_iff.1 h
      have named : node.group = name := wf.group_eq found variant
      exact ⟨Graph.mem_nodes_of_find? found variant, .start (named ▸ starts)⟩) id h
  exact ⟨node, member, reached, same⟩

/-- Every variant of a group that is reached has an id that is reached. -/
theorem mem_reachedIds_of_reached (wf : graph.WellFormed)
    (distinct : (graph.nodes.map (·.sourceId)).Nodup) {name : String} (h : graph.Reached name) :
    ∀ {group : Group} {node : Node}, graph.find? name = some group → node ∈ group.variants →
      node.sourceId ∈ reachedIds graph := by
  induction h with
  | @start name starts =>
    intro group node found variant
    refine mem_visitAll_of_mem_stack _ (List.mem_reverse.2 ?_)
    exact Graph.mem_startNodes_iff.2 ⟨name, group, found, starts, variant⟩
  | @next name next _ passes ih =>
    intro group node found variant
    obtain ⟨goesOn, -, own, foundOwn, before, ownVariant, choice⟩ := passes
    have named : before.group = name := wf.group_eq foundOwn ownVariant
    refine closed_visitAll distinct _ ?_ before (Graph.mem_nodes_of_find? foundOwn ownVariant)
      (ih foundOwn ownVariant) node ?_
    · exact fun other _ seen => absurd seen List.not_mem_nil
    · exact mem_pushed_iff.2 ⟨named ▸ goesOn, next, choice, group, found, variant⟩

/-- **The search comes to a variant exactly when a reader can come to its group.** -/
theorem mem_reachedIds_iff (wf : graph.WellFormed)
    (distinct : (graph.nodes.map (·.sourceId)).Nodup) {node : Node} (member : node ∈ graph.nodes) :
    node.sourceId ∈ reachedIds graph ↔ graph.Reached node.group := by
  constructor
  · intro h
    obtain ⟨other, otherMember, reached, same⟩ := exists_reached_of_mem_reachedIds wf h
    have equal : other = node := List.inj_on_of_nodup_map distinct otherMember member same
    exact equal ▸ reached
  · intro h
    obtain ⟨name, group, found, variant⟩ := Graph.mem_nodes_iff.1 member
    have named : node.group = name := wf.group_eq found variant
    exact mem_reachedIds_of_reached wf distinct h (named ▸ found) variant

/-- **The variants that no reader comes to** are those of the groups that are not reached. -/
theorem mem_unreachable_iff (wf : graph.WellFormed)
    (distinct : (graph.nodes.map (·.sourceId)).Nodup) {node : Node} :
    node ∈ unreachable graph ↔ node ∈ graph.nodes ∧ ¬ graph.Reached node.group := by
  rw [unreachable, List.mem_filter, decide_eq_true_eq]
  constructor
  · rintro ⟨member, absent⟩
    exact ⟨member, fun reached => absent ((mem_reachedIds_iff wf distinct member).2 reached)⟩
  · rintro ⟨member, unreached⟩
    exact ⟨member, fun h => unreached ((mem_reachedIds_iff wf distinct member).1 h)⟩

/-- Nothing is unreachable if a reader comes to every group. -/
theorem unreachable_eq_nil (wf : graph.WellFormed) (distinct : (graph.nodes.map (·.sourceId)).Nodup)
    (reached : ∀ node ∈ graph.nodes, graph.Reached node.group) : unreachable graph = [] := by
  refine List.eq_nil_iff_forall_not_mem.2 fun node missed => ?_
  obtain ⟨member, unreached⟩ := (mem_unreachable_iff wf distinct).1 missed
  exact unreached (reached node member)

/-! ### The rounds end -/

/-- Where the search stands. -/
structure Worklist where
  /-- The source ids that have been visited. -/
  visited : List String
  /-- The variants still to look at, the next one first. -/
  stack : List Node

namespace Worklist

/-- The search has visited nothing, and is to look at every start variant. -/
def first (graph : Graph) : Worklist := ⟨[], graph.startNodes.reverse⟩

/-- One round of the search, which changes nothing when there is nothing more to look at. -/
def round (graph : Graph) : Worklist → Worklist
  | ⟨visited, []⟩ => ⟨visited, []⟩
  | ⟨visited, node :: rest⟩ =>
    if node.sourceId ∈ visited then ⟨visited, rest⟩
    else ⟨node.sourceId :: visited, pushed graph node ++ rest⟩

theorem round_of_mem {visited : List String} {node : Node} {rest : List Node}
    (old : node.sourceId ∈ visited) : round graph ⟨visited, node :: rest⟩ = ⟨visited, rest⟩ := by
  rw [round, if_pos old]

theorem round_of_notMem {visited : List String} {node : Node} {rest : List Node}
    (fresh : node.sourceId ∉ visited) :
    round graph ⟨visited, node :: rest⟩ = ⟨node.sourceId :: visited, pushed graph node ++ rest⟩ := by
  rw [round, if_neg fresh]

end Worklist

/-- Where a condition holds of fewer things, and not of one that the other condition holds of, what the
things that it holds of make together is shorter by what that one makes. -/
theorem length_flatMap_filter_add_le {α β : Type} {p q : α → Bool} (f : α → List β)
    (imp : ∀ a, p a = true → q a = true) :
    ∀ {l : List α} {a : α}, a ∈ l → p a = false → q a = true →
      ((l.filter p).flatMap f).length + (f a).length ≤ ((l.filter q).flatMap f).length
  | b :: l, a, member, hp, hq => by
    rcases List.mem_cons.1 member with rfl | member
    · have fewer : (l.filter p).Sublist (l.filter q) := List.monotone_filter_right l imp
      have less := (fewer.flatMap f).length_le
      rw [List.filter_cons_of_neg (by simp [hp]), List.filter_cons_of_pos hq, List.flatMap_cons,
        List.length_append]
      omega
    · have rest := length_flatMap_filter_add_le f imp member hp hq
      by_cases here : p b = true
      · rw [List.filter_cons_of_pos here, List.filter_cons_of_pos (imp b here), List.flatMap_cons,
          List.flatMap_cons, List.length_append, List.length_append]
        omega
      · rw [List.filter_cons_of_neg here, List.filter_cons]
        split
        · rw [List.flatMap_cons, List.length_append]
          omega
        · exact rest

/-- How many variants may still be pushed: those that follow the variants whose ids have not been
visited. -/
def stillToPush (graph : Graph) (visited : List String) : Nat :=
  ((graph.nodes.filter fun node => node.sourceId ∉ visited).flatMap (pushed graph)).length

theorem stillToPush_cons_add_le {visited : List String} {node : Node} (member : node ∈ graph.nodes)
    (fresh : node.sourceId ∉ visited) :
    stillToPush graph (node.sourceId :: visited) + (pushed graph node).length ≤
      stillToPush graph visited := by
  refine length_flatMap_filter_add_le (pushed graph) (fun other h => ?_) member ?_ ?_
  · simp only [List.mem_cons, not_or, decide_eq_true_eq] at h ⊢
    exact h.2
  · simp
  · simp [fresh]

/-- **The rounds end** with an empty stack, and there are not more of them than variants on the stack and
variants that may still be pushed. -/
theorem exists_rounds (visited : List String) {stack : List Node}
    (inGraph : ∀ node ∈ stack, node ∈ graph.nodes) :
    ∃ rounds ≤ stack.length + stillToPush graph visited,
      (Worklist.round graph)^[rounds] ⟨visited, stack⟩ =
        ⟨visitAll graph visited stack inGraph, []⟩ := by
  fun_induction visitAll graph visited stack inGraph with
  | case1 visited => exact ⟨0, Nat.zero_le _, rfl⟩
  | case2 visited node rest inGraph old inGraphRest ih =>
    obtain ⟨rounds, few, ends⟩ := ih
    refine ⟨rounds + 1, ?_, ?_⟩
    · rw [List.length_cons]
      omega
    · rw [Function.iterate_succ_apply, Worklist.round_of_mem old, ends]
  | case3 visited node rest inGraph fresh inGraphNext ih =>
    obtain ⟨rounds, few, ends⟩ := ih
    refine ⟨rounds + 1, ?_, ?_⟩
    · have less := stillToPush_cons_add_le (inGraph node List.mem_cons_self) fresh
      rw [List.length_append] at few
      rw [List.length_cons]
      omega
    · rw [Function.iterate_succ_apply, Worklist.round_of_notMem fresh, ends]

/-! ### The least closed set -/

/-- The set holds every group that the story may start in, and with a group every group that a reader can
go on to from it. -/
structure HoldsReaders (graph : Graph) (names : Set String) : Prop where
  starts : ∀ name, graph.startsAt name = true → name ∈ names
  passes : ∀ name ∈ names, ∀ next, graph.Passes name next → next ∈ names

/-- **What a reader can come to is the least such set.** -/
theorem isLeast_reached (graph : Graph) :
    IsLeast {names | HoldsReaders graph names} {name | graph.Reached name} := by
  constructor
  · exact ⟨fun _ starts => .start starts, fun _ reached _ passes => reached.next passes⟩
  · intro names holds name reached
    induction reached with
    | start starts => exact holds.starts _ starts
    | next _ passes ih => exact holds.passes _ ih _ passes

/-- **The search for unreachable variants ends, and finds the complement of the least closed set.**  In a
story of which every document has an id of its own, the rounds end with the stack empty after no more of
them than start variants and variants that follow a variant.  What is listed then, in the order of the
graph and each variant once, are the variants of the groups that are not in the least set with every
start group and every group that is passed to from it; of one group all variants are listed or none. -/
theorem unreachable_ofInsertions_exact (history : List Graph.Insertion)
    (distinct : (history.map (·.node.sourceId)).Nodup) :
    (∃ rounds ≤ (Graph.ofInsertions history).startNodes.length +
          ((Graph.ofInsertions history).nodes.flatMap (pushed (.ofInsertions history))).length,
        (Worklist.round (.ofInsertions history))^[rounds] (.first (.ofInsertions history)) =
          ⟨reachedIds (.ofInsertions history), []⟩) ∧
      (unreachable (.ofInsertions history)).Sublist (Graph.ofInsertions history).nodes ∧
      (unreachable (.ofInsertions history)).Nodup ∧
      (∃ reached : Set String, IsLeast {names | HoldsReaders (.ofInsertions history) names} reached ∧
        ∀ node, node ∈ unreachable (.ofInsertions history) ↔
          node ∈ (Graph.ofInsertions history).nodes ∧ node.group ∉ reached) ∧
      ∀ group ∈ (Graph.ofInsertions history).groups,
        (∀ node ∈ group.variants, node ∈ unreachable (.ofInsertions history)) ∨
          ∀ node ∈ group.variants, node ∉ unreachable (.ofInsertions history) := by
  have wf := Graph.wellFormed_ofInsertions history
  have ids := Graph.nodup_sourceIds_of_history distinct
  refine ⟨?_, List.filter_sublist, (List.Nodup.of_map _ ids).filter _, ?_, ?_⟩
  · obtain ⟨rounds, few, ends⟩ := exists_rounds []
      fun node (member : node ∈ (Graph.ofInsertions history).startNodes.reverse) =>
        Graph.mem_nodes_of_mem_startNodes (List.mem_reverse.1 member)
    refine ⟨rounds, ?_, ends⟩
    simpa [stillToPush] using few
  · exact ⟨_, isLeast_reached _, fun node => mem_unreachable_iff wf ids⟩
  · intro group member
    obtain ⟨name, found⟩ := Graph.mem_groups_iff.1 member
    have listed : ∀ node ∈ group.variants,
        (node ∈ unreachable (.ofInsertions history) ↔ ¬ (Graph.ofInsertions history).Reached name) := by
      intro node variant
      rw [mem_unreachable_iff wf ids, wf.group_eq found variant]
      exact and_iff_right (Graph.mem_nodes_of_find? found variant)
    by_cases reached : (Graph.ofInsertions history).Reached name
    · exact .inr fun node variant missed => (listed node variant).1 missed reached
    · exact .inl fun node variant => (listed node variant).2 reached

/-- A hall from which one may go up to a loft or out to a moor that is not told, a tower where the story
ends, and a vault told in two ways, to which only the tower leads. -/
def hallAndVault : List Graph.Insertion :=
  [{ node :=
      { sourceId := "1", group := "hall", choices := .ofList [("Out", "moor"), ("Up", "loft")] }
     said := { start? := some true } },
   { node :=
      { sourceId := "2", group := "loft", choices := .ofList [("Down", "hall"), ("On", "tower")] } },
   { node := { sourceId := "3", group := "tower", choices := .ofList [("Under", "vault")] }
     said := { ending? := some true } },
   { node := { sourceId := "4", group := "vault" } },
   { node := { sourceId := "5", group := "vault", choices := .ofList [("Up", "hall")] } }]

theorem holdsReaders_hallAndVault :
    HoldsReaders (.ofInsertions hallAndVault) {name | name ≠ "vault"} where
  starts := by
    rintro name starts rfl
    exact absurd starts (by decide)
  passes := by
    rintro name other next passes rfl
    have there : name ∈ (Graph.ofInsertions hallAndVault).table.names :=
      NameTable.mem_names_iff.2 (Graph.contains_iff.1 passes.2.contains_left)
    exact (by decide : ∀ name ∈ (Graph.ofInsertions hallAndVault).table.names, name ≠ "vault" →
      ¬ (Graph.ofInsertions hallAndVault).Passes name "vault") name there other passes

theorem unreachable_hallAndVault :
    (hallAndVault.map (·.node.sourceId)).Nodup ∧
      (∃ rounds ≤ 5, (Worklist.round (.ofInsertions hallAndVault))^[rounds]
        (.first (.ofInsertions hallAndVault)) = ⟨reachedIds (.ofInsertions hallAndVault), []⟩) ∧
      ∀ node ∈ (Graph.ofInsertions hallAndVault).nodes,
        node ∈ unreachable (.ofInsertions hallAndVault) ↔ node.group = "vault" := by
  have distinct : (hallAndVault.map (·.node.sourceId)).Nodup := by decide
  obtain ⟨⟨rounds, few, ends⟩, -, -, ⟨reached, least, listed⟩, -⟩ :=
    unreachable_ofInsertions_exact hallAndVault distinct
  refine ⟨distinct, ⟨rounds, few.trans (by decide), ends⟩, fun node member => ?_⟩
  have hall : "hall" ∈ reached := least.1.starts _ (by decide)
  have loft : "loft" ∈ reached := least.1.passes _ hall _ (by decide)
  have tower : "tower" ∈ reached := least.1.passes _ loft _ (by decide)
  have groups : ∀ node ∈ (Graph.ofInsertions hallAndVault).nodes,
      node.group ≠ "vault" → node.group = "hall" ∨ node.group = "loft" ∨ node.group = "tower" := by
    decide
  rw [listed, and_iff_right member]
  constructor
  · intro missed
    by_contra other
    rcases groups node member other with same | same | same
    · exact missed (same ▸ hall)
    · exact missed (same ▸ loft)
    · exact missed (same ▸ tower)
  · intro same inside
    exact least.2 holdsReaders_hallAndVault inside same

end Gamebook.Analysis
