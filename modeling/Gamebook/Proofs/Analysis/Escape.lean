import Gamebook.Analysis.Escape
import Gamebook.Proofs.Analysis.LoopSearch

/-!
# A loop is a trap when no ending is in reach

`reachesEnding` looks for an ending by a search over group names that visits no name twice.  This file
says that it finds one exactly when choices lead to one (`Graph.CanEnd`), and hence which loops are
escapable.

A search that does not look at a name again might miss an ending that was not yet found when the name was
first looked at.  It does not, because all that follows a visited name is visited or still on the stack
(`closed_visitGroups`), whatever is found later.

The variants of a loop belong to the groups of its canonical form, so whether a loop is a trap is a matter
of its groups (`mem_escapable_iff`, `mem_inescapable_iff`).

## Why it does not matter where the loop is left

The search is made from every group of the loop, but choices lead from each of them to all the others:
going round, a reader comes to the one from which an ending can be reached.  The last link of the round
is that from the last group back to the first, and the canonical form may cut the loop anywhere.  So the
round is begun where it suits (`reflTransGen_of_isChain_closed`).
-/

namespace Gamebook.Analysis

open Gamebook.Story

variable {graph : Graph}

/-! ### What the rounds keep -/

/-- The search goes on from a group exactly to the names that its choices hold, if it does not end the
story. -/
theorem mem_onward_iff {group : Group} {next : String} :
    next ∈ onward group ↔ group.isEnding = false ∧ next ∈ group.targets := by
  rw [onward]
  split
  · next ends => simp [ends]
  · next goesOn =>
    rw [Bool.not_eq_true] at goesOn
    exact ⟨fun h => ⟨goesOn, h⟩, fun h => h.2⟩

theorem mem_visitGroups_of_mem_visited {visited stack : List String} {name : String}
    (h : name ∈ visited) : name ∈ visitGroups graph visited stack := by
  fun_induction visitGroups graph visited stack with
  | case1 visited => exact h
  | case2 visited next rest missing ih => exact ih h
  | case3 visited next rest group found old ih => exact ih h
  | case4 visited next rest group found fresh ih => exact ih (List.mem_cons_of_mem _ h)

theorem mem_visitGroups_of_mem_stack {visited stack : List String} {name : String}
    (there : graph.contains name = true) (h : name ∈ stack) :
    name ∈ visitGroups graph visited stack := by
  fun_induction visitGroups graph visited stack with
  | case1 visited => exact absurd h List.not_mem_nil
  | case2 visited next rest missing ih =>
    rcases List.mem_cons.1 h with rfl | h
    · rw [Graph.contains, missing] at there
      exact absurd there (by simp)
    · exact ih h
  | case3 visited next rest group found old ih =>
    rcases List.mem_cons.1 h with rfl | h
    · exact mem_visitGroups_of_mem_visited old
    · exact ih h
  | case4 visited next rest group found fresh ih =>
    rcases List.mem_cons.1 h with rfl | h
    · exact mem_visitGroups_of_mem_visited List.mem_cons_self
    · exact ih (List.mem_append_right _ h)

/-- **Only what can be come to is visited**: a property of the names on the stack that passes from a group
to those it is passed from holds of every name that is visited. -/
theorem forall_mem_visitGroups {P : String → Prop}
    (step : ∀ name next, P name → graph.Passes name next → P next)
    {visited stack : List String} (before : ∀ name ∈ visited, P name)
    (waiting : ∀ name ∈ stack, graph.contains name = true → P name) :
    ∀ name ∈ visitGroups graph visited stack, P name := by
  fun_induction visitGroups graph visited stack with
  | case1 visited => exact before
  | case2 visited next rest missing ih =>
    exact ih before fun other h => waiting other (List.mem_cons_of_mem _ h)
  | case3 visited next rest group found old ih =>
    exact ih before fun other h => waiting other (List.mem_cons_of_mem _ h)
  | case4 visited next rest group found fresh ih =>
    have here : P next := waiting next List.mem_cons_self (Graph.contains_of_find? found)
    refine ih ?_ ?_
    · intro name h
      rcases List.mem_cons.1 h with rfl | h
      · exact here
      · exact before name h
    · intro other h there
      rcases List.mem_append.1 h with h | h
      · obtain ⟨goesOn, target⟩ := mem_onward_iff.1 h
        refine step next other here ⟨(Graph.isEnding_of_find? found).trans goesOn, ?_⟩
        exact (Graph.links_iff_of_find? found).2 ⟨there, target⟩
      · exact waiting other (List.mem_cons_of_mem _ h) there

/-- **What is visited is closed**: what a visited group passes to is visited, if all of it was visited or
on the stack. -/
theorem closed_visitGroups {visited stack : List String}
    (looked : ∀ name ∈ visited, ∀ next, graph.Passes name next → next ∈ visited ∨ next ∈ stack) :
    ∀ name ∈ visitGroups graph visited stack, ∀ next, graph.Passes name next →
      next ∈ visitGroups graph visited stack := by
  fun_induction visitGroups graph visited stack with
  | case1 visited =>
    intro name old next passes
    exact (looked name old next passes).resolve_right List.not_mem_nil
  | case2 visited name rest missing ih =>
    refine ih fun other old next passes => ?_
    rcases looked other old next passes with h | h
    · exact .inl h
    · rcases List.mem_cons.1 h with rfl | h
      · have there := passes.2.1
        rw [Graph.contains, missing] at there
        exact absurd there (by simp)
      · exact .inr h
  | case3 visited name rest group found old ih =>
    refine ih fun other seen next passes => ?_
    rcases looked other seen next passes with h | h
    · exact .inl h
    · rcases List.mem_cons.1 h with rfl | h
      · exact .inl old
      · exact .inr h
  | case4 visited name rest group found fresh ih =>
    refine ih fun other seen next passes => ?_
    rcases List.mem_cons.1 seen with rfl | seen
    · obtain ⟨goesOn, links⟩ := passes
      refine .inr (List.mem_append_left _ (mem_onward_iff.2 ⟨?_, ?_⟩))
      · exact (Graph.isEnding_of_find? found).symm.trans goesOn
      · exact ((Graph.links_iff_of_find? found).1 links).2
    · rcases looked other seen next passes with h | h
      · exact .inl (List.mem_cons_of_mem _ h)
      · rcases List.mem_cons.1 h with rfl | h
        · exact .inl List.mem_cons_self
        · exact .inr (List.mem_append_right _ h)

/-! ### Reaching an ending -/

/-- **What is visited from a group** is what a reader can come to from there. -/
theorem mem_visitGroups_iff {name other : String} (there : graph.contains name = true) :
    other ∈ visitGroups graph [] [name] ↔ Relation.ReflTransGen graph.Passes name other := by
  constructor
  · refine forall_mem_visitGroups (P := Relation.ReflTransGen graph.Passes name) ?_ ?_ ?_ other
    · exact fun _ _ way passes => way.tail passes
    · exact fun _ h => absurd h List.not_mem_nil
    · intro first h _
      rw [List.mem_singleton.1 h]
  · intro way
    induction way with
    | refl => exact mem_visitGroups_of_mem_stack there (List.mem_singleton_self _)
    | tail _ passes ih =>
      exact closed_visitGroups (fun _ h => absurd h List.not_mem_nil) _ ih _ passes

/-- Where choices lead nowhere but back, no ending is in reach. -/
theorem not_canEnd_of_forall_links {name : String} (goesOn : graph.isEnding name = false)
    (back : ∀ next ∈ graph.table.names, graph.Links name next → next = name) :
    ¬ graph.CanEnd name := by
  rintro ⟨ending, ends, way⟩
  have stays : ending = name := by
    clear ends
    induction way with
    | refl => rfl
    | tail _ links ih =>
      exact back _ (NameTable.mem_names_iff.2 (Graph.contains_iff.1 links.1)) (ih ▸ links)
  rw [stays, goesOn] at ends
  exact absurd ends (by decide)

/-- **An ending is reached exactly when choices lead to one.** -/
theorem reachesEnding_iff {name : String} : reachesEnding graph name = true ↔ graph.CanEnd name := by
  rw [reachesEnding, List.any_eq_true]
  by_cases there : graph.contains name = true
  · constructor
    · rintro ⟨ending, visited, ends⟩
      refine ⟨ending, ends, Relation.ReflTransGen.mono ?_ _ _ ((mem_visitGroups_iff there).1 visited)⟩
      exact fun _ _ passes => passes.2
    · intro h
      obtain ⟨ending, ends, way⟩ := h.exists_passes
      exact ⟨ending, (mem_visitGroups_iff there).2 way, ends⟩
  · constructor
    · rintro ⟨ending, visited, -⟩
      refine (forall_mem_visitGroups (P := fun _ => False) ?_ ?_ ?_ ending visited).elim
      · exact fun _ _ h _ => h
      · exact fun _ h => absurd h List.not_mem_nil
      · exact fun other h found => there (List.mem_singleton.1 h ▸ found)
    · rintro ⟨ending, ends, way⟩
      exfalso
      rcases Relation.ReflTransGen.cases_head way with rfl | ⟨next, links, -⟩
      · obtain ⟨group, found, -⟩ := Graph.isEnding_iff.1 ends
        exact there (Graph.contains_of_find? found)
      · exact there links.contains_left

/-! ### The classes of loops -/

/-- The variants of a loop that is found belong to the groups of its canonical form. -/
theorem groups_of_mem_findLoops (wf : graph.WellFormed) {found : Loop}
    (member : found ∈ findLoops graph) : found.nodes.map (·.group) = found.canonical := by
  obtain ⟨p, -, -, closed⟩ := exists_closes_of_mem_findLoopsWithin wf member
  obtain ⟨approach, first, rest, -, -, -, rfl⟩ := Loop.closing?_eq_some_iff.1 closed
  exact Loop.groups_along _

theorem nodes_ne_nil_of_mem_findLoops (wf : graph.WellFormed) {found : Loop}
    (member : found ∈ findLoops graph) : found.nodes ≠ [] := by
  obtain ⟨p, -, -, closed⟩ := exists_closes_of_mem_findLoopsWithin wf member
  obtain ⟨approach, first, rest, -, -, -, rfl⟩ := Loop.closing?_eq_some_iff.1 closed
  intro empty
  rw [Loop.along, closed_eq_nil_iff] at empty
  have short := congrArg List.length empty
  rw [length_rotated, List.length_cons, List.length_nil] at short
  omega

theorem canEscape_iff_exists_node {found : Loop} :
    found.canEscape graph = true ↔ ∃ node ∈ found.nodes, graph.CanEnd node.group := by
  rw [Loop.canEscape, List.any_eq_true]
  simp only [reachesEnding_iff]

theorem canEscape_iff (wf : graph.WellFormed) {found : Loop} (member : found ∈ findLoops graph) :
    found.canEscape graph = true ↔ ∃ name ∈ found.canonical, graph.CanEnd name := by
  rw [canEscape_iff_exists_node, ← groups_of_mem_findLoops wf member]
  simp only [List.mem_map]
  constructor
  · rintro ⟨node, onLoop, ends⟩
    exact ⟨node.group, ⟨node, onLoop, rfl⟩, ends⟩
  · rintro ⟨name, ⟨node, onLoop, rfl⟩, ends⟩
    exact ⟨node, onLoop, ends⟩

/-- **The escapable loops**, by their canonical forms. -/
theorem mem_escapable_iff (wf : graph.WellFormed) {names : List String} :
    names ∈ (classifyLoops graph).escapable.map (·.canonical) ↔
      names ∈ (findLoops graph).map (·.canonical) ∧ ∃ name ∈ names, graph.CanEnd name := by
  simp only [classifyLoops, List.partition_eq_filter_filter, List.mem_map, List.mem_filter]
  constructor
  · rintro ⟨found, ⟨member, escapes⟩, rfl⟩
    exact ⟨⟨found, member, rfl⟩, (canEscape_iff wf member).1 escapes⟩
  · rintro ⟨⟨found, member, rfl⟩, ends⟩
    exact ⟨found, ⟨member, (canEscape_iff wf member).2 ends⟩, rfl⟩

/-- **The traps**, by their canonical forms. -/
theorem mem_inescapable_iff (wf : graph.WellFormed) {names : List String} :
    names ∈ (classifyLoops graph).inescapable.map (·.canonical) ↔
      names ∈ (findLoops graph).map (·.canonical) ∧ ¬ ∃ name ∈ names, graph.CanEnd name := by
  simp only [classifyLoops, List.partition_eq_filter_filter, List.mem_map, List.mem_filter,
    Function.comp, Bool.not_eq_true', Bool.eq_false_iff]
  constructor
  · rintro ⟨found, ⟨member, trapped⟩, rfl⟩
    exact ⟨⟨found, member, rfl⟩, fun h => trapped ((canEscape_iff wf member).2 h)⟩
  · rintro ⟨⟨found, member, rfl⟩, trapped⟩
    exact ⟨found, ⟨member, fun h => trapped ((canEscape_iff wf member).1 h)⟩, rfl⟩

/-! ### Going round -/

/-- **A closed walk leads from everywhere on it to everywhere on it.** -/
theorem reflTransGen_of_isChain_closed {α : Type} {r : α → α → Prop} {items : List α}
    (chain : (closed items).IsChain r) {a b : α} (member : a ∈ items) (member' : b ∈ items) :
    Relation.ReflTransGen r a b := by
  obtain ⟨before, after, rfl⟩ := List.append_of_mem member
  have turned : (a :: (after ++ before) ++ [a]).IsChain r :=
    isChain_closed_append_comm chain
  have ways : (a :: (after ++ before) ++ [a]).Pairwise (Relation.ReflTransGen r) :=
    List.isChain_iff_pairwise.1 (turned.imp fun _ _ => .single)
  have later : b = a ∨ b ∈ after ++ before := by
    simp only [List.mem_append, List.mem_cons] at member' ⊢
    tauto
  rcases later with rfl | later
  · exact .refl
  · exact (List.pairwise_cons.1 ways).1 b (List.mem_append_left _ later)

/-- A loop that is found leads from each of its groups to all of them. -/
theorem reflTransGen_links_of_mem_findLoops (wf : graph.WellFormed) {found : Loop}
    (member : found ∈ findLoops graph) {name other : String} (onLoop : name ∈ found.canonical)
    (onLoop' : other ∈ found.canonical) : Relation.ReflTransGen graph.Links name other := by
  obtain ⟨cycle, enterable, same⟩ :=
    (mem_canonicals_findLoops_iff wf).1 (List.mem_map_of_mem (f := (·.canonical)) member)
  rw [same, mem_canonicalCycle] at onLoop onLoop'
  exact reflTransGen_of_isChain_closed enterable.linked onLoop onLoop'

/-- **A loop that can be left for an ending from one of its variants can be from all.** -/
theorem exists_canEnd_iff_forall (wf : graph.WellFormed) {found : Loop}
    (member : found ∈ findLoops graph) :
    (∃ node ∈ found.nodes, graph.CanEnd node.group) ↔
      ∀ node ∈ found.nodes, graph.CanEnd node.group := by
  have onLoop : ∀ node ∈ found.nodes, node.group ∈ found.canonical := by
    intro node member'
    rw [← groups_of_mem_findLoops wf member]
    exact List.mem_map_of_mem member'
  constructor
  · rintro ⟨node, there, ending, ends, way⟩ other there'
    have round := reflTransGen_links_of_mem_findLoops wf member (onLoop other there')
      (onLoop node there)
    exact ⟨ending, ends, round.trans way⟩
  · intro all
    obtain ⟨node, there⟩ := List.exists_mem_of_ne_nil _ (nodes_ne_nil_of_mem_findLoops wf member)
    exact ⟨node, there, all node there⟩

/-! ### Both classes -/

theorem mem_classes_iff {found : Loop} (member : found ∈ findLoops graph) :
    (found ∈ (classifyLoops graph).escapable ↔ found.canEscape graph = true) ∧
      (found ∈ (classifyLoops graph).inescapable ↔ found.canEscape graph = false) := by
  simp only [classifyLoops, List.partition_eq_filter_filter, List.mem_filter, member, true_and,
    Function.comp, Bool.not_eq_true']

theorem escapable_append_inescapable_perm (graph : Graph) :
    ((classifyLoops graph).escapable ++ (classifyLoops graph).inescapable).Perm (findLoops graph) := by
  rw [classifyLoops, List.partition_eq_filter_filter]
  exact List.filter_append_perm _ _

/-- **A loop is escapable exactly when choices lead from it to an ending**, and it does not matter from
which of its groups.  Whatever was inserted, the two classes are the loops that are found, each loop in
one of them, and both are in the order of discovery. -/
theorem classifyLoops_ofInsertions_exact (history : List Graph.Insertion) :
    (∀ found ∈ findLoops (.ofInsertions history),
        (found ∈ (classifyLoops (.ofInsertions history)).escapable ↔
          ∃ node ∈ found.nodes, (Graph.ofInsertions history).CanEnd node.group) ∧
        ((∃ node ∈ found.nodes, (Graph.ofInsertions history).CanEnd node.group) ↔
          ∀ node ∈ found.nodes, (Graph.ofInsertions history).CanEnd node.group) ∧
        (found ∈ (classifyLoops (.ofInsertions history)).inescapable ↔
          found ∉ (classifyLoops (.ofInsertions history)).escapable)) ∧
      (classifyLoops (.ofInsertions history)).escapable.Sublist (findLoops (.ofInsertions history)) ∧
      (classifyLoops (.ofInsertions history)).inescapable.Sublist (findLoops (.ofInsertions history)) ∧
      ((classifyLoops (.ofInsertions history)).escapable ++
        (classifyLoops (.ofInsertions history)).inescapable).Perm
          (findLoops (.ofInsertions history)) := by
  have wf := Graph.wellFormed_ofInsertions history
  refine ⟨fun found member => ⟨?_, exists_canEnd_iff_forall wf member, ?_⟩, ?_, ?_,
    escapable_append_inescapable_perm _⟩
  · rw [(mem_classes_iff member).1, canEscape_iff_exists_node]
  · rw [(mem_classes_iff member).1, (mem_classes_iff member).2, Bool.not_eq_true]
  · rw [classifyLoops, List.partition_eq_filter_filter]
    exact List.filter_sublist
  · rw [classifyLoops, List.partition_eq_filter_filter]
    exact List.filter_sublist

/-- A hall from which one may go up to a loft and back, or down into a cellar where one can only go round;
from the loft one may also step out on a roof, where the story ends. -/
def loftAndCellar : List Graph.Insertion :=
  [{ node :=
      { sourceId := "1", group := "hall", choices := .ofList [("Down", "cellar"), ("Up", "loft")] }
     said := { start? := some true } },
   { node :=
      { sourceId := "2", group := "loft", choices := .ofList [("Down", "hall"), ("Out", "roof")] } },
   { node := { sourceId := "3", group := "roof" }, said := { ending? := some true } },
   { node := { sourceId := "4", group := "cellar", choices := .ofList [("Round", "cellar")] } }]

theorem not_canEnd_cellar : ¬ (Graph.ofInsertions loftAndCellar).CanEnd "cellar" :=
  not_canEnd_of_forall_links (by decide) (by decide)

theorem classes_loftAndCellar :
    (∃ found ∈ findLoops (.ofInsertions loftAndCellar), found.canonical = ["hall", "loft", "hall"] ∧
        found ∈ (classifyLoops (.ofInsertions loftAndCellar)).escapable ∧
        ∀ node ∈ found.nodes, (Graph.ofInsertions loftAndCellar).CanEnd node.group) ∧
      ∃ found ∈ findLoops (.ofInsertions loftAndCellar), found.canonical = ["cellar", "cellar"] ∧
        found ∈ (classifyLoops (.ofInsertions loftAndCellar)).inescapable := by
  have wf := Graph.wellFormed_ofInsertions loftAndCellar
  have loops : (findLoops (.ofInsertions loftAndCellar)).map (·.canonical) =
      [["cellar", "cellar"], ["hall", "loft", "hall"]] := by decide +kernel
  have classes := (classifyLoops_ofInsertions_exact loftAndCellar).1
  constructor
  · have listed : ["hall", "loft", "hall"] ∈
        (findLoops (.ofInsertions loftAndCellar)).map (·.canonical) := by rw [loops]; decide
    obtain ⟨found, member, names⟩ := List.mem_map.1 listed
    obtain ⟨escapable, everywhere, -⟩ := classes found member
    have loft : "loft" ∈ found.nodes.map (·.group) := by
      rw [groups_of_mem_findLoops wf member, names]
      decide
    obtain ⟨node, onLoop, named⟩ := List.mem_map.1 loft
    have leaves : (Graph.ofInsertions loftAndCellar).CanEnd node.group :=
      ⟨"roof", by decide, named ▸ .single (by decide)⟩
    exact ⟨found, member, names, escapable.2 ⟨node, onLoop, leaves⟩,
      everywhere.1 ⟨node, onLoop, leaves⟩⟩
  · have listed : ["cellar", "cellar"] ∈
        (findLoops (.ofInsertions loftAndCellar)).map (·.canonical) := by rw [loops]; decide
    obtain ⟨found, member, names⟩ := List.mem_map.1 listed
    obtain ⟨escapable, -, inescapable⟩ := classes found member
    refine ⟨found, member, names, inescapable.2 fun escapes => ?_⟩
    obtain ⟨node, onLoop, leaves⟩ := escapable.1 escapes
    have inside : node.group ∈ found.canonical := by
      rw [← groups_of_mem_findLoops wf member]
      exact List.mem_map_of_mem onLoop
    rw [names] at inside
    have cellar : node.group = "cellar" := by simpa using inside
    exact not_canEnd_cellar (cellar ▸ leaves)

end Gamebook.Analysis
