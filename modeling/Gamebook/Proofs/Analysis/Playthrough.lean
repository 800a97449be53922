import Gamebook.Analysis.Playthrough
import Gamebook.Proofs.Story.Route

/-!
# The playthroughs are the complete admissible ways

A reader's way through a story is a list of groups.  It is `Admissible` when a reader can take it: it
begins where the story may start, goes on from group to group by choices, not beyond an ending, and comes
back only to groups that may be entered again.  It is `Complete` when there is nowhere to go on to.

The search for playthroughs goes along such ways and gives up those that are too long.  The statement of
this file is that it does nothing else: every complete admissible way of at most a certain length is found
once, each group shown by its first variant, and the count of ways given up is zero exactly when there
is no admissible way beyond that length.

## The invariant

At a call of `continueInto` the variants read so far, together with the group that is entered, spell an
admissible way (`Stands`), and what is found are the complete ways that continue it
(`mem_playthroughs_iff`).  The step is that the groups the search goes on to are those by which the way
can be continued (`mem_admissible_iff`).  A choice that names a group again would continue the way by the
same group, which is why the search may take each of them once.

## The length

A call with no room left still records a way that ends there, and counts what it would go on to.  With
room for five times the number of groups after the first one, the longest way that is recorded has one
group more than that.
-/

namespace Gamebook.Analysis

open Gamebook.Story

/-! ### Ways of a reader -/

/-- A reader who went through some groups and then the group `name` may go on to the group `next`. -/
def MayFollow (graph : Graph) (walked : List String) (name next : String) : Prop :=
  graph.Passes name next ∧ (graph.mayReturnTo next = true ∨ next ∉ walked ++ [name])

/-- A way that a reader can take. -/
structure Admissible (graph : Graph) (names : List String) : Prop where
  /-- The story may start in the first group. -/
  started : ∃ first, names.head? = some first ∧ graph.startsAt first = true
  /-- Every other group follows the one before it. -/
  follows : ∀ walked name next rest, names = walked ++ name :: next :: rest →
    MayFollow graph walked name next

/-- A way that ends: with an ending, or where no choice leads anywhere. -/
def Complete (graph : Graph) (names : List String) : Prop :=
  ∃ last, names.getLast? = some last ∧
    (graph.isEnding last = true ∨ ∀ next, ¬ graph.Links last next)

variable {graph : Graph}

theorem admissible_singleton_iff {name : String} :
    Admissible graph [name] ↔ graph.startsAt name = true := by
  constructor
  · rintro ⟨⟨first, begins, starts⟩, -⟩
    rw [List.head?_singleton, Option.some.injEq] at begins
    exact begins ▸ starts
  · intro starts
    refine ⟨⟨name, rfl, starts⟩, fun walked x y rest split => ?_⟩
    have lengths := congrArg List.length split
    simp only [List.length_append, List.length_cons, List.length_nil] at lengths
    omega

/-- **A way grows by a group that may follow.** -/
theorem Admissible.concat {walked : List String} {name next : String}
    (way : Admissible graph (walked ++ [name])) (follows : MayFollow graph walked name next) :
    Admissible graph (walked ++ [name] ++ [next]) where
  started := by
    obtain ⟨first, begins, starts⟩ := way.started
    refine ⟨first, ?_, starts⟩
    rw [List.head?_append, begins, Option.some_or]
  follows := by
    intro before x y rest split
    rcases List.eq_nil_or_concat rest with rfl | ⟨init, last, rfl⟩
    · -- the new group is the last of the two
      have h : walked ++ [name] ++ [next] = before ++ [x] ++ [y] := by
        rw [split, List.append_assoc]
        rfl
      obtain ⟨h, same⟩ := List.append_inj' h rfl
      obtain ⟨h', same'⟩ := List.append_inj' h rfl
      rw [List.singleton_inj] at same same'
      subst h' same same'
      exact follows
    · have h : walked ++ [name] ++ [next] = (before ++ x :: y :: init) ++ [last] := by
        rw [split]
        simp
      exact way.follows before x y init (List.append_inj' h rfl).1

theorem Admissible.contains {names : List String} (way : Admissible graph names) {name : String}
    (member : name ∈ names) : graph.contains name = true := by
  obtain ⟨before, rest, rfl⟩ := List.append_of_mem member
  rcases List.eq_nil_or_concat before with rfl | ⟨walked, last, rfl⟩
  · obtain ⟨first, begins, starts⟩ := way.started
    rw [List.nil_append, List.head?_cons, Option.some.injEq] at begins
    exact Graph.contains_of_startsAt (begins ▸ starts)
  · rw [List.concat_eq_append, ← List.append_cons] at way
    exact (way.follows walked last name rest rfl).1.2.1

/-- On an admissible way a reader passes from each group to the next. -/
theorem Admissible.isChain_passes {names : List String} (way : Admissible graph names) :
    names.IsChain graph.Passes := by
  rw [List.isChain_iff_forall_rel_of_append_cons_cons]
  intro name next walked rest split
  exact (way.follows walked name next rest split).1

/-- A reader can come to every group on an admissible way. -/
theorem Admissible.reached {names : List String} (way : Admissible graph names) {name : String}
    (member : name ∈ names) : graph.Reached name := by
  obtain ⟨first, begins, starts⟩ := way.started
  exact (Graph.Reached.start starts).of_mem_isChain way.isChain_passes begins name member

/-- A simple way along passages from a start is admissible, whatever may be entered again. -/
theorem admissible_of_isChain {names : List String} (chain : names.IsChain graph.Passes)
    (distinct : names.Nodup)
    (started : ∃ first, names.head? = some first ∧ graph.startsAt first = true) :
    Admissible graph names where
  started := started
  follows := by
    rintro walked name next rest rfl
    rw [List.isChain_split, List.isChain_cons_cons] at chain
    refine ⟨chain.2.1, .inr fun again => ?_⟩
    rw [List.append_cons, List.nodup_append] at distinct
    exact distinct.2.2 next again next List.mem_cons_self rfl

/-! ### The way into a group -/

/-- The way of a reader who enters a group after the variants `before`, the latest first. -/
def wayTo (before : List Node) (group : Group) : List String :=
  (before.map (·.group)).reverse ++ [group.name]

/-- The variant stands for its group: it is the first one. -/
def IsShown (graph : Graph) (node : Node) : Prop :=
  ∃ group, graph.find? node.group = some group ∧ group.variants.head? = some node

/-- A reader stands in a group of the graph, in which the way there is one that can be taken, and was
shown the first variant of every group before it. -/
structure Stands (graph : Graph) (before : List Node) (group : Group) : Prop where
  found : graph.find? group.name = some group
  way : Admissible graph (wayTo before group)
  shown : ∀ node ∈ before, IsShown graph node

theorem leadsOn_iff {group : Group} (found : graph.find? group.name = some group) :
    leadsOn graph group = true ↔ ∃ next, graph.Links group.name next := by
  rw [leadsOn, List.any_eq_true]
  constructor
  · rintro ⟨next, target, there⟩
    exact ⟨next, (Graph.links_iff_of_find? found).2 ⟨there, target⟩⟩
  · rintro ⟨next, links⟩
    obtain ⟨there, target⟩ := (Graph.links_iff_of_find? found).1 links
    exact ⟨next, target, there⟩

/-- **Where the search records a way, the way is complete**, and nowhere else. -/
theorem complete_wayTo_iff {before : List Node} {group : Group}
    (found : graph.find? group.name = some group) :
    Complete graph (wayTo before group) ↔ (group.isEnding || !leadsOn graph group) = true := by
  have last : (wayTo before group).getLast? = some group.name := List.getLast?_concat
  rw [Bool.or_eq_true, Bool.not_eq_true', ← Graph.isEnding_of_find? found, Complete, last]
  constructor
  · rintro ⟨name, same, h⟩
    rw [Option.some.injEq] at same
    subst same
    refine h.imp id fun nowhere => ?_
    rw [Bool.eq_false_iff]
    intro leads
    obtain ⟨next, links⟩ := (leadsOn_iff found).1 leads
    exact nowhere next links
  · intro h
    refine ⟨group.name, rfl, h.imp id fun nowhere next links => ?_⟩
    rw [(leadsOn_iff found).2 ⟨next, links⟩] at nowhere
    exact absurd nowhere (by decide)

/-- No way goes on from where it is complete. -/
theorem Complete.eq_nil {names rest : List String} (complete : Complete graph names)
    (way : Admissible graph (names ++ rest)) : rest = [] := by
  obtain ⟨last, ends, h⟩ := complete
  obtain ⟨walked, rfl⟩ := List.getLast?_eq_some_iff.1 ends
  cases rest with
  | nil => rfl
  | cons next rest =>
    rw [← List.append_cons] at way
    obtain ⟨⟨goesOn, links⟩, -⟩ := way.follows walked last next rest rfl
    rcases h with ending | nowhere
    · rw [goesOn] at ending
      exact absurd ending (by decide)
    · exact absurd links (nowhere next)

/-! ### One step of the search -/

theorem find?_of_mem_admissible (wf : graph.WellFormed) {route : List Node} {group next : Group}
    (member : next ∈ admissible graph route group) : graph.find? next.name = some next := by
  obtain ⟨name, -, there⟩ := List.mem_filterMap.1 (List.mem_filter.1 member).1
  rw [wf.name_eq there]
  exact there

/-- **The names of what is gone on to** are picked from the targets, one by one. -/
theorem map_name_admissible (wf : graph.WellFormed) {before : List Node} {shown : Node}
    {group : Group} (here : shown.group = group.name) :
    (admissible graph (shown :: before) group).map (·.name) =
      group.targets.filter fun name =>
        graph.contains name && (graph.mayReturnTo name || decide (name ∉ wayTo before group)) := by
  have onWay : ∀ name, ((shown :: before).any fun node => node.group == name) =
      decide (name ∈ wayTo before group) := by
    intro name
    rw [Bool.eq_iff_iff, decide_eq_true_eq, wayTo]
    simp only [List.any_cons, here, Bool.or_eq_true, List.any_eq_true, beq_iff_eq, List.mem_append,
      List.mem_reverse, List.mem_map, List.mem_singleton]
    rw [or_comm, eq_comm]
  rw [admissible]
  induction group.targets with
  | nil => rfl
  | cons name rest ih =>
    cases there : graph.find? name with
    | none =>
      have missing : graph.contains name = false := by rw [Graph.contains, there]; rfl
      rw [List.filterMap_cons_none there, ih, List.filter_cons, missing]
      rfl
    | some next =>
      have found : graph.contains name = true := Graph.contains_of_find? there
      rw [List.filterMap_cons_some there, List.filter_cons, List.filter_cons, found,
        Graph.mayReturnTo_of_find? there, wf.name_eq there, onWay, decide_not, Bool.true_and]
      by_cases taken : (next.revisit || !decide (name ∈ wayTo before group)) = true
      · rw [if_pos taken, if_pos taken, List.map_cons, ih, wf.name_eq there]
      · rw [if_neg taken, if_neg taken, ih]

/-- **The search goes on to the groups by which the way can be continued.** -/
theorem mem_admissible_iff (wf : graph.WellFormed) {before : List Node} {shown : Node}
    {group next : Group} (found : graph.find? group.name = some group)
    (variant : shown ∈ group.variants) (goesOn : group.isEnding = false) :
    next ∈ admissible graph (shown :: before) group ↔
      graph.find? next.name = some next ∧
        MayFollow graph (before.map (·.group)).reverse group.name next.name := by
  have here : shown.group = group.name := wf.group_eq found variant
  have notEnding : graph.isEnding group.name = false := (Graph.isEnding_of_find? found).trans goesOn
  have names : next.name ∈ (admissible graph (shown :: before) group).map (·.name) ↔
      MayFollow graph (before.map (·.group)).reverse group.name next.name := by
    rw [map_name_admissible wf here, List.mem_filter, Bool.and_eq_true, Bool.or_eq_true,
      decide_eq_true_eq, MayFollow, Graph.Passes, Graph.links_iff_of_find? found]
    constructor
    · rintro ⟨target, there, again⟩
      exact ⟨⟨notEnding, there, target⟩, again⟩
    · rintro ⟨⟨-, there, target⟩, again⟩
      exact ⟨target, there, again⟩
  constructor
  · intro member
    exact ⟨find?_of_mem_admissible wf member, names.1 (List.mem_map_of_mem member)⟩
  · rintro ⟨there, follows⟩
    obtain ⟨next', member, same⟩ := List.mem_map.1 (names.2 follows)
    have there' := find?_of_mem_admissible wf member
    rw [same, there, Option.some.injEq] at there'
    rw [there']
    exact member

/-- Of the groups gone on to, no two have the same name. -/
theorem mem_firstBy_admissible_iff (wf : graph.WellFormed) {route : List Node} {group next : Group} :
    next ∈ firstBy (·.name) (admissible graph route group) ↔ next ∈ admissible graph route group := by
  refine mem_firstBy_iff fun a memberA b memberB same => ?_
  have equal := find?_of_mem_admissible wf memberA
  rw [same, find?_of_mem_admissible wf memberB, Option.some.injEq] at equal
  exact equal.symm

theorem wayTo_cons {before : List Node} {shown : Node} {group : Group} (next : Group)
    (here : shown.group = group.name) :
    wayTo (shown :: before) next = wayTo before group ++ [next.name] := by
  rw [wayTo, wayTo, List.map_cons, List.reverse_cons, here]

/-- **A step of the search is a step of the reader.** -/
theorem Stands.step (wf : graph.WellFormed) {before : List Node} {shown : Node} {group next : Group}
    (stands : Stands graph before group) (first : group.variants.head? = some shown)
    (goesOn : group.isEnding = false) (member : next ∈ admissible graph (shown :: before) group) :
    Stands graph (shown :: before) next := by
  have variant : shown ∈ group.variants := List.mem_of_mem_head? first
  have here : shown.group = group.name := wf.group_eq stands.found variant
  obtain ⟨there, follows⟩ := (mem_admissible_iff wf stands.found variant goesOn).1 member
  refine ⟨there, ?_, ?_⟩
  · rw [wayTo_cons next here]
    exact stands.way.concat follows
  · intro node onWay
    rcases List.mem_cons.1 onWay with rfl | onWay
    · exact ⟨group, here ▸ stands.found, first⟩
    · exact stands.shown node onWay

/-- Where a way can be continued, the search goes on to the group that continues it. -/
theorem Stands.exists_next (wf : graph.WellFormed) {before : List Node} {shown : Node} {group : Group}
    {name : String} {rest : List String} (stands : Stands graph before group)
    (first : group.variants.head? = some shown) (goesOn : group.isEnding = false)
    (way : Admissible graph (wayTo before group ++ name :: rest)) :
    ∃ next ∈ admissible graph (shown :: before) group, next.name = name := by
  have variant : shown ∈ group.variants := List.mem_of_mem_head? first
  rw [wayTo, ← List.append_cons] at way
  have follows := way.follows _ _ _ _ rfl
  obtain ⟨next, there⟩ := Graph.contains_iff.1 follows.1.2.1
  obtain rfl : next.name = name := wf.name_eq there
  exact ⟨next, (mem_admissible_iff wf stands.found variant goesOn).2 ⟨there, follows⟩, rfl⟩

/-! ### What a search finds -/

section Equations

variable {room : Nat} {before : List Node} {shown : Node} {group : Group}

theorem continueInto_of_complete (found : graph.find? group.name = some group)
    (first : group.variants.head? = some shown) (complete : Complete graph (wayTo before group)) :
    continueInto graph room before group = { playthroughs := [⟨(shown :: before).reverse⟩] } := by
  obtain ⟨more, variants⟩ := List.head?_eq_some_iff.1 first
  unfold continueInto
  rw [variants]
  exact if_pos ((complete_wayTo_iff found).1 complete)

theorem continueInto_zero (found : graph.find? group.name = some group)
    (first : group.variants.head? = some shown) (goesOn : ¬ Complete graph (wayTo before group)) :
    continueInto graph 0 before group =
      { cutoffs := ((admissible graph (shown :: before) group).flatMap (·.variants)).length } := by
  obtain ⟨more, variants⟩ := List.head?_eq_some_iff.1 first
  unfold continueInto
  rw [variants]
  exact if_neg fun h => goesOn ((complete_wayTo_iff found).2 h)

theorem continueInto_succ (found : graph.find? group.name = some group)
    (first : group.variants.head? = some shown) (goesOn : ¬ Complete graph (wayTo before group)) :
    continueInto graph (room + 1) before group =
      .join ((firstBy (·.name) (admissible graph (shown :: before) group)).map
        fun next => continueInto graph room (shown :: before) next) := by
  obtain ⟨more, variants⟩ := List.head?_eq_some_iff.1 first
  conv_lhs => unfold continueInto
  rw [variants]
  exact if_neg fun h => goesOn ((complete_wayTo_iff found).2 h)

theorem isEnding_eq_false_of_not_complete (found : graph.find? group.name = some group)
    (goesOn : ¬ Complete graph (wayTo before group)) : group.isEnding = false := by
  rw [Bool.eq_false_iff]
  intro ends
  refine goesOn ((complete_wayTo_iff found).2 ?_)
  rw [ends, Bool.true_or]

theorem Stands.exists_shown (wf : graph.WellFormed) (stands : Stands graph before group) :
    ∃ shown, group.variants.head? = some shown := by
  have nonempty := wf.variants_ne_nil stands.found
  exact ⟨_, List.head?_eq_some_head nonempty⟩

theorem groupNames_reverse (here : shown.group = group.name) :
    Playthrough.groupNames ⟨(shown :: before).reverse⟩ = wayTo before group := by
  rw [Playthrough.groupNames, List.map_reverse, List.map_cons, List.reverse_cons, here, wayTo]

theorem mem_map_groupNames_join {searches : List PlaythroughSearch} {names : List String} :
    names ∈ (PlaythroughSearch.join searches).playthroughs.map (·.groupNames) ↔
      ∃ search ∈ searches, names ∈ search.playthroughs.map (·.groupNames) := by
  rw [PlaythroughSearch.join, List.map_flatMap, List.mem_flatMap]

theorem cutoffs_join_eq_zero_iff {searches : List PlaythroughSearch} :
    (PlaythroughSearch.join searches).cutoffs = 0 ↔ ∀ search ∈ searches, search.cutoffs = 0 := by
  induction searches with
  | nil => exact ⟨fun _ search member => absurd member List.not_mem_nil, fun _ => rfl⟩
  | cons search rest ih =>
    have adds : (PlaythroughSearch.join (search :: rest)).cutoffs =
        search.cutoffs + (PlaythroughSearch.join rest).cutoffs := rfl
    rw [adds, Nat.add_eq_zero_iff, ih, List.forall_mem_cons]

end Equations

/-- **Induction along a search.**  A call whose way is complete records it.  A call without room for what
it would go on to counts it.  Every other call goes on, and what is asked of it may be taken from the calls
that it makes. -/
theorem Stands.induction (wf : graph.WellFormed)
    {motive : Nat → ∀ before group, Stands graph before group → Prop}
    (ends : ∀ room before group (stands : Stands graph before group) shown,
      group.variants.head? = some shown → Complete graph (wayTo before group) →
      motive room before group stands)
    (noRoom : ∀ before group (stands : Stands graph before group) shown,
      group.variants.head? = some shown → ¬ Complete graph (wayTo before group) →
      motive 0 before group stands)
    (goesOn : ∀ room before group (stands : Stands graph before group) shown
      (first : group.variants.head? = some shown)
      (incomplete : ¬ Complete graph (wayTo before group)),
      (∀ next (taken : next ∈ admissible graph (shown :: before) group),
        motive room (shown :: before) next (stands.step wf first
          (isEnding_eq_false_of_not_complete stands.found incomplete) taken)) →
      motive (room + 1) before group stands) :
    ∀ (room : Nat) before group (stands : Stands graph before group),
      motive room before group stands := by
  intro room
  induction room with
  | zero =>
    intro before group stands
    obtain ⟨shown, first⟩ := stands.exists_shown wf
    by_cases complete : Complete graph (wayTo before group)
    · exact ends 0 before group stands shown first complete
    · exact noRoom before group stands shown first complete
  | succ room ih =>
    intro before group stands
    obtain ⟨shown, first⟩ := stands.exists_shown wf
    by_cases complete : Complete graph (wayTo before group)
    · exact ends (room + 1) before group stands shown first complete
    · exact goesOn room before group stands shown first complete fun next _ =>
        ih (shown :: before) next _

/-- **What is found below a call**: the complete ways that continue the way into the group by no more
groups than there is room for. -/
theorem mem_playthroughs_iff (wf : graph.WellFormed) {names : List String} {room : Nat}
    {before : List Node} {group : Group} (stands : Stands graph before group) :
    names ∈ (continueInto graph room before group).playthroughs.map (·.groupNames) ↔
      ∃ rest, names = wayTo before group ++ rest ∧ rest.length ≤ room ∧
        Admissible graph names ∧ Complete graph names := by
  induction room, before, group, stands using Stands.induction wf with
  | ends room before group stands shown first complete =>
    have here := wf.group_eq stands.found (List.mem_of_mem_head? first)
    rw [continueInto_of_complete stands.found first complete, List.map_singleton,
      List.mem_singleton, groupNames_reverse here]
    constructor
    · rintro rfl
      exact ⟨[], (List.append_nil _).symm, Nat.zero_le _, stands.way, complete⟩
    · rintro ⟨rest, rfl, -, way, -⟩
      rw [complete.eq_nil way, List.append_nil]
  | noRoom before group stands shown first incomplete =>
    rw [continueInto_zero stands.found first incomplete]
    constructor
    · intro member
      exact absurd member List.not_mem_nil
    · rintro ⟨rest, rfl, short, -, ends⟩
      rw [List.eq_nil_of_length_eq_zero (Nat.le_zero.1 short), List.append_nil] at ends
      exact absurd ends incomplete
  | goesOn room before group stands shown first incomplete ih =>
    have here := wf.group_eq stands.found (List.mem_of_mem_head? first)
    have onward := isEnding_eq_false_of_not_complete stands.found incomplete
    rw [continueInto_succ stands.found first incomplete, mem_map_groupNames_join]
    constructor
    · rintro ⟨search, called, member⟩
      obtain ⟨next, kept, rfl⟩ := List.mem_map.1 called
      have taken := (mem_firstBy_admissible_iff wf).1 kept
      obtain ⟨rest, split, short, way, ends⟩ := (ih next taken).1 member
      rw [wayTo_cons next here, List.append_assoc] at split
      exact ⟨next.name :: rest, split, Nat.succ_le_succ short, way, ends⟩
    · rintro ⟨rest, rfl, short, way, ends⟩
      cases rest with
      | nil =>
        rw [List.append_nil] at ends
        exact absurd ends incomplete
      | cons name rest =>
        obtain ⟨next, taken, rfl⟩ := stands.exists_next wf first onward way
        refine ⟨_, List.mem_map_of_mem ((mem_firstBy_admissible_iff wf).2 taken), ?_⟩
        refine (ih next taken).2 ⟨rest, ?_, Nat.le_of_succ_le_succ short, way, ends⟩
        rw [wayTo_cons next here, List.append_assoc]
        rfl

/-- **Every variant on a playthrough is the first of its group.** -/
theorem isShown_of_mem_playthroughs (wf : graph.WellFormed) {room : Nat} {before : List Node}
    {group : Group} (stands : Stands graph before group) :
    ∀ route ∈ (continueInto graph room before group).playthroughs, ∀ node ∈ route.nodes,
      IsShown graph node := by
  induction room, before, group, stands using Stands.induction wf with
  | ends room before group stands shown first complete =>
    have here := wf.group_eq stands.found (List.mem_of_mem_head? first)
    rw [continueInto_of_complete stands.found first complete]
    intro route member node onRoute
    rw [List.mem_singleton.1 member, List.mem_reverse] at onRoute
    rcases List.mem_cons.1 onRoute with rfl | onRoute
    · exact ⟨group, here ▸ stands.found, first⟩
    · exact stands.shown node onRoute
  | noRoom before group stands shown first incomplete =>
    rw [continueInto_zero stands.found first incomplete]
    exact fun route member => absurd member List.not_mem_nil
  | goesOn room before group stands shown first incomplete ih =>
    rw [continueInto_succ stands.found first incomplete]
    intro route member
    obtain ⟨search, called, member⟩ := List.mem_flatMap.1 member
    obtain ⟨next, kept, rfl⟩ := List.mem_map.1 called
    exact ih next ((mem_firstBy_admissible_iff wf).1 kept) route member

/-- Searches that go on from one way by groups of different names find nothing in common. -/
theorem disjoint_groupNames (wf : graph.WellFormed) {room : Nat} {before : List Node} {a b : Group}
    (standsA : Stands graph before a) (standsB : Stands graph before b) (other : a.name ≠ b.name) :
    List.Disjoint ((continueInto graph room before a).playthroughs.map (·.groupNames))
      ((continueInto graph room before b).playthroughs.map (·.groupNames)) := by
  intro names memberA memberB
  obtain ⟨restA, splitA, -⟩ := (mem_playthroughs_iff wf standsA).1 memberA
  obtain ⟨restB, splitB, -⟩ := (mem_playthroughs_iff wf standsB).1 memberB
  rw [splitA, wayTo, wayTo, List.append_assoc, List.append_assoc] at splitB
  have rests := List.append_cancel_left splitB
  exact other (List.cons.inj rests).1

/-- The ways found by searches from different groups after the same variants are distinct, if those of
each search are. -/
theorem nodup_map_groupNames_join (wf : graph.WellFormed) {room : Nat} {before : List Node}
    {groups : List Group} (named : groups.Pairwise fun a b => a.name ≠ b.name)
    (stands : ∀ group ∈ groups, Stands graph before group)
    (each : ∀ group ∈ groups,
      ((continueInto graph room before group).playthroughs.map (·.groupNames)).Nodup) :
    ((PlaythroughSearch.join (groups.map fun group => continueInto graph room before group)
      ).playthroughs.map (·.groupNames)).Nodup := by
  rw [PlaythroughSearch.join, List.map_flatMap, List.flatMap_map, List.nodup_flatMap]
  refine ⟨each, named.imp_of_mem fun memberA memberB other => ?_⟩
  exact disjoint_groupNames wf (stands _ memberA) (stands _ memberB) other

/-- **No way is found twice.** -/
theorem nodup_map_groupNames (wf : graph.WellFormed) {room : Nat} {before : List Node} {group : Group}
    (stands : Stands graph before group) :
    ((continueInto graph room before group).playthroughs.map (·.groupNames)).Nodup := by
  induction room, before, group, stands using Stands.induction wf with
  | ends room before group stands shown first complete =>
    rw [continueInto_of_complete stands.found first complete]
    exact List.nodup_singleton _
  | noRoom before group stands shown first incomplete =>
    rw [continueInto_zero stands.found first incomplete]
    exact List.nodup_nil
  | goesOn room before group stands shown first incomplete ih =>
    have onward := isEnding_eq_false_of_not_complete stands.found incomplete
    rw [continueInto_succ stands.found first incomplete]
    refine nodup_map_groupNames_join wf (pairwise_firstBy _ _) ?_ ?_
    · intro next kept
      exact stands.step wf first onward ((mem_firstBy_admissible_iff wf).1 kept)
    · intro next kept
      exact ih next ((mem_firstBy_admissible_iff wf).1 kept)

/-- **Nothing is given up below a call** exactly when the way into the group cannot be continued by more
groups than there is room for. -/
theorem cutoffs_eq_zero_iff (wf : graph.WellFormed) {room : Nat} {before : List Node} {group : Group}
    (stands : Stands graph before group) :
    (continueInto graph room before group).cutoffs = 0 ↔
      ∀ rest, Admissible graph (wayTo before group ++ rest) → rest.length ≤ room := by
  induction room, before, group, stands using Stands.induction wf with
  | ends room before group stands shown first complete =>
    rw [continueInto_of_complete stands.found first complete]
    refine ⟨fun _ rest way => ?_, fun _ => rfl⟩
    rw [complete.eq_nil way]
    exact Nat.zero_le room
  | noRoom before group stands shown first incomplete =>
    have onward := isEnding_eq_false_of_not_complete stands.found incomplete
    have variant : shown ∈ group.variants := List.mem_of_mem_head? first
    rw [continueInto_zero stands.found first incomplete, List.length_eq_zero_iff,
      List.flatMap_eq_nil_iff]
    constructor
    · intro none rest way
      cases rest with
      | nil => exact Nat.le_refl 0
      | cons name rest =>
        obtain ⟨next, taken, -⟩ := stands.exists_next wf first onward way
        obtain ⟨there, -⟩ := (mem_admissible_iff wf stands.found variant onward).1 taken
        exact absurd (none next taken) (wf.variants_ne_nil there)
    · intro short next taken
      have way := (stands.step wf first onward taken).way
      rw [wayTo_cons next (wf.group_eq stands.found variant)] at way
      exact absurd (short [next.name] way) (Nat.not_succ_le_zero 0)
  | goesOn room before group stands shown first incomplete ih =>
    have onward := isEnding_eq_false_of_not_complete stands.found incomplete
    have here := wf.group_eq stands.found (List.mem_of_mem_head? first)
    rw [continueInto_succ stands.found first incomplete, cutoffs_join_eq_zero_iff,
      List.forall_mem_map]
    simp only [mem_firstBy_admissible_iff wf]
    constructor
    · intro none rest way
      cases rest with
      | nil => exact Nat.zero_le _
      | cons name rest =>
        obtain ⟨next, taken, rfl⟩ := stands.exists_next wf first onward way
        refine Nat.succ_le_succ ((ih next taken).1 (none next taken) rest ?_)
        rw [wayTo_cons next here, List.append_assoc]
        exact way
    · intro short next taken
      refine (ih next taken).2 fun rest way => ?_
      rw [wayTo_cons next here, List.append_assoc] at way
      exact Nat.le_of_succ_le_succ (short (next.name :: rest) way)

/-! ### All playthroughs -/

theorem stands_of_mem_startGroups (wf : graph.WellFormed) {group : Group}
    (start : group ∈ graph.startGroups) : Stands graph [] group := by
  obtain ⟨name, found, starts⟩ := Graph.mem_startGroups_iff.1 start
  obtain rfl : group.name = name := wf.name_eq found
  refine ⟨found, ?_, ?_⟩
  · exact admissible_singleton_iff.2 starts
  · exact fun node member => absurd member List.not_mem_nil

theorem Admissible.exists_start (wf : graph.WellFormed) {names : List String}
    (way : Admissible graph names) :
    ∃ group ∈ graph.startGroups, ∃ rest, names = wayTo [] group ++ rest := by
  obtain ⟨first, begins, starts⟩ := way.started
  obtain ⟨rest, rfl⟩ := List.head?_eq_some_iff.1 begins
  obtain ⟨group, found, -⟩ := Graph.startsAt_iff.1 starts
  refine ⟨group, Graph.mem_startGroups_iff.2 ⟨first, found, starts⟩, rest, ?_⟩
  rw [wayTo, wf.name_eq found]
  rfl

theorem pairwise_name_startGroups (wf : graph.WellFormed) :
    graph.startGroups.Pairwise fun a b => a.name ≠ b.name := by
  have distinct : (graph.groups.map (·.name)).Nodup := by
    rw [wf.map_name_groups]
    exact NameTable.nodup_names graph.table
  exact (List.pairwise_map.1 distinct).sublist List.filter_sublist

/-- **The playthroughs are the complete ways** that have at most one group more than there is room for. -/
theorem mem_searchPlaythroughs_iff (wf : graph.WellFormed) {names : List String} :
    names ∈ (searchPlaythroughs graph).playthroughs.map (·.groupNames) ↔
      Admissible graph names ∧ Complete graph names ∧
        names.length ≤ routeLengthFactor * graph.groupCount + 1 := by
  rw [searchPlaythroughs, mem_map_groupNames_join]
  constructor
  · rintro ⟨search, called, member⟩
    obtain ⟨group, start, rfl⟩ := List.mem_map.1 called
    have stands := stands_of_mem_startGroups wf start
    obtain ⟨rest, rfl, short, way, ends⟩ := (mem_playthroughs_iff wf stands).1 member
    exact ⟨way, ends, Nat.succ_le_succ short⟩
  · rintro ⟨way, ends, short⟩
    obtain ⟨group, start, rest, rfl⟩ := way.exists_start wf
    refine ⟨_, List.mem_map_of_mem start, ?_⟩
    refine (mem_playthroughs_iff wf (stands_of_mem_startGroups wf start)).2 ⟨rest, rfl, ?_, way, ends⟩
    exact Nat.le_of_succ_le_succ short

/-- **A playthrough comes to every end that a reader can come to.**  The way there may be long and may
need groups again that must not be entered again, but a way without detours does neither. -/
theorem exists_playthrough_of_reached (wf : graph.WellFormed) {name : String}
    (reached : graph.Reached name)
    (ends : graph.isEnding name = true ∨ ∀ next, ¬ graph.Links name next) :
    ∃ names, names ++ [name] ∈ (searchPlaythroughs graph).playthroughs.map (·.groupNames) := by
  obtain ⟨start, starts, way⟩ := Graph.reached_iff.1 reached
  obtain ⟨names, chain, distinct, first⟩ := exists_nodup_chain way
  have admissible := admissible_of_isChain chain distinct ⟨start, first, starts⟩
  have short := Graph.length_le_groupCount distinct fun name => admissible.contains
  refine ⟨names, (mem_searchPlaythroughs_iff wf).2 ⟨admissible, ?_, ?_⟩⟩
  · exact ⟨name, List.getLast?_concat, ends⟩
  · rw [routeLengthFactor]
    omega

/-- **Nothing is given up** exactly when no way is longer than the longest that is recorded. -/
theorem cutoffs_searchPlaythroughs_eq_zero_iff (wf : graph.WellFormed) :
    (searchPlaythroughs graph).cutoffs = 0 ↔
      ∀ names, Admissible graph names →
        names.length ≤ routeLengthFactor * graph.groupCount + 1 := by
  rw [searchPlaythroughs, cutoffs_join_eq_zero_iff, List.forall_mem_map]
  constructor
  · intro none names way
    obtain ⟨group, start, rest, rfl⟩ := way.exists_start wf
    have stands := stands_of_mem_startGroups wf start
    exact Nat.succ_le_succ ((cutoffs_eq_zero_iff wf stands).1 (none group start) rest way)
  · intro short group start
    refine (cutoffs_eq_zero_iff wf (stands_of_mem_startGroups wf start)).2 fun rest way => ?_
    exact Nat.le_of_succ_le_succ (short _ way)

/-- **Playthrough discovery is exact.**  Whatever was inserted, the playthroughs that are found differ in
their groups, and these are the complete admissible ways of at most five times as many groups as there
are and one more.  Each group on them is shown by its first variant, and the count of what was given up
is zero exactly when no admissible way is longer. -/
theorem searchPlaythroughs_ofInsertions_exact (history : List Graph.Insertion) :
    ((searchPlaythroughs (.ofInsertions history)).playthroughs.map (·.groupNames)).Nodup ∧
      (∀ names, names ∈ (searchPlaythroughs (.ofInsertions history)).playthroughs.map (·.groupNames) ↔
        Admissible (.ofInsertions history) names ∧ Complete (.ofInsertions history) names ∧
          names.length ≤ 5 * (Graph.ofInsertions history).groupCount + 1) ∧
      (∀ route ∈ (searchPlaythroughs (.ofInsertions history)).playthroughs, ∀ node ∈ route.nodes,
        IsShown (.ofInsertions history) node) ∧
      ((searchPlaythroughs (.ofInsertions history)).cutoffs = 0 ↔
        ∀ names, Admissible (.ofInsertions history) names →
          names.length ≤ 5 * (Graph.ofInsertions history).groupCount + 1) := by
  have wf := Graph.wellFormed_ofInsertions history
  refine ⟨?_, fun _ => mem_searchPlaythroughs_iff wf, ?_, cutoffs_searchPlaythroughs_eq_zero_iff wf⟩
  · refine nodup_map_groupNames_join wf (pairwise_name_startGroups wf) ?_ ?_
    · exact fun _ start => stands_of_mem_startGroups wf start
    · exact fun _ start => nodup_map_groupNames wf (stands_of_mem_startGroups wf start)
  · intro route member
    obtain ⟨search, called, member⟩ := List.mem_flatMap.1 member
    obtain ⟨group, start, rfl⟩ := List.mem_map.1 called
    exact isShown_of_mem_playthroughs wf (stands_of_mem_startGroups wf start) route member

end Gamebook.Analysis
