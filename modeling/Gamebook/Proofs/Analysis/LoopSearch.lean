import Gamebook.Analysis.Loop
import Gamebook.Proofs.Analysis.Rotation
import Gamebook.Proofs.Story.Route
import Mathlib.Data.List.TakeWhile

/-!
# What the loop search finds

The loop search walks every route from every start variant until a group repeats, and reports the part
between the two occurrences.  This file says what it finds in terms of groups alone: the canonical
forms of the loops are those of the cycles that a reader can come into and walk round (`Enterable`),
each once.

## The search as steps

A place of the search is a `Position`: the variant that is entered and the trail of the variants walked
through.  `Advances` is one step, and `mem_loopsFrom_iff` says that the search finds exactly the loops
which are closed at the positions that its steps lead to.  The recursion on the room that is left does
not occur after that.

## Nothing wrong is found

`Walked` is what every step keeps: the trail is linked choice by choice, begins with a start, passes no
ending, and meets no group twice.  A group that is met a second time must be one that may be entered
again, unless it is the group that was left just now: whether a group may be entered is asked before the
variant that offers the choice joins the trail.  A position that is walked and closes a loop therefore
closes an enterable one.

## Nothing is missed

Conversely the names of an enterable cycle, behind those of a simple way to it, make a `Lasso`, and that
is a list of names that the search can follow.  It follows names while the trail holds variants, so in
each group the variant is chosen that offers the choice to the next one; the search enters all variants
of a group, that one among them.

## The room never runs out

The groups on a trail are distinct, so a trail is no longer than the number of groups.
-/

namespace Gamebook.Analysis

open Gamebook.Story

/-! ### Closing a loop -/

theorem walkedThrough_iff {trail : List Node} {name : String} :
    walkedThrough trail name = true ↔ name ∈ trail.map (·.group) := by
  rw [walkedThrough, List.any_eq_true, List.mem_map]
  simp only [beq_iff_eq]

/-- The loop along a body of variants that lead back to the first of them. -/
def Loop.along (body : List Node) : Loop :=
  ⟨closed (rotated body (leastRotation (body.map (·.group)))), canonicalCycle (body.map (·.group))⟩

/-- **The variants of a loop belong to the groups of its canonical form**, place by place. -/
theorem Loop.groups_along (body : List Node) :
    (Loop.along body).nodes.map (·.group) = (Loop.along body).canonical := by
  rw [Loop.along, map_closed, map_rotated, canonicalCycle]

/-- The body of a loop starts where the group of the last variant first occurs. -/
theorem Loop.closing?_eq_some_iff {before : List Node} {last : Node} {found : Loop} :
    Loop.closing? before last = some found ↔
      ∃ approach first rest, before = approach ++ first :: rest ∧ first.group = last.group ∧
        (∀ node ∈ approach, node.group ≠ last.group) ∧ found = Loop.along (first :: rest) := by
  constructor
  · intro h
    cases hb : before.dropWhile fun node => decide (node.group ≠ last.group) with
    | nil =>
      rw [Loop.closing?, hb] at h
      exact absurd h (by simp)
    | cons first rest =>
      rw [Loop.closing?, hb] at h
      have parts := List.takeWhile_append_dropWhile
        (p := fun node : Node => decide (node.group ≠ last.group)) (l := before)
      have stop := List.head_dropWhile_not (fun node : Node => decide (node.group ≠ last.group))
        (l := before) (by rw [hb]; exact List.cons_ne_nil _ _)
      rw [hb] at parts
      simp only [hb, List.head_cons, decide_eq_false_iff_not, not_not] at stop
      refine ⟨_, first, rest, parts.symm, stop, ?_, (Option.some.inj h).symm⟩
      intro node member
      have passed := List.mem_takeWhile_imp
        (p := fun node : Node => decide (node.group ≠ last.group)) member
      exact of_decide_eq_true passed
  · rintro ⟨approach, first, rest, rfl, same, other, rfl⟩
    have body : (approach ++ first :: rest).dropWhile
        (fun node => decide (node.group ≠ last.group)) = first :: rest := by
      rw [List.dropWhile_append_of_pos fun node member => decide_eq_true (other node member)]
      exact List.dropWhile_cons_of_neg (by simp [same])
    rw [Loop.closing?, body]
    rfl

/-! ### The search as steps -/

/-- Where the search stands. -/
structure Position where
  /-- The variants walked through, the latest first. -/
  trail : List Node
  /-- The variant that is entered. -/
  node : Node

/-- The search goes on from one position to the other. -/
structure Advances (graph : Graph) (p q : Position) : Prop where
  /-- No group is walked through twice. -/
  fresh : p.node.group ∉ p.trail.map (·.group)
  /-- The group of the variant exists. -/
  exists_group : graph.contains p.node.group = true
  /-- The story does not end there. -/
  goesOn : graph.isEnding p.node.group = false
  /-- The variant joins the trail. -/
  trail_eq : q.trail = p.node :: p.trail
  /-- A choice of the variant leads on to the next one. -/
  continues : ∃ group ∈ continuations graph p.trail p.node, q.node ∈ group.variants

/-- At the position a loop is closed. -/
def Closes (p : Position) (found : Loop) : Prop :=
  p.node.group ∈ p.trail.map (·.group) ∧ Loop.closing? p.trail.reverse p.node = some found

variable {graph : Graph}

theorem length_trail_le {p q : Position} (walk : Relation.ReflTransGen (Advances graph) p q) :
    p.trail.length ≤ q.trail.length := by
  induction walk with
  | refl => exact Nat.le_refl _
  | tail _ step ih =>
    rw [step.trail_eq, List.length_cons]
    omega

/-- Where a group repeats the search does not go on. -/
theorem eq_of_repeats {p q : Position} (repeats : p.node.group ∈ p.trail.map (·.group))
    (walk : Relation.ReflTransGen (Advances graph) p q) : p = q := by
  rcases Relation.ReflTransGen.cases_head walk with h | ⟨next, step, -⟩
  · exact h
  · exact absurd repeats step.fresh

theorem mem_loopsFrom_iff_of_repeats {room : Nat} {trail : List Node} {node : Node} {found : Loop}
    (repeats : node.group ∈ trail.map (·.group)) :
    found ∈ loopsFrom graph room trail node ↔
      ∃ p, Relation.ReflTransGen (Advances graph) ⟨trail, node⟩ p ∧
        p.trail.length ≤ trail.length + room ∧ Closes p found := by
  have here : loopsFrom graph room trail node = (Loop.closing? trail.reverse node).toList := by
    unfold loopsFrom
    rw [if_pos (walkedThrough_iff.2 repeats)]
  rw [here, Option.mem_toList]
  constructor
  · intro closed
    exact ⟨⟨trail, node⟩, .refl, Nat.le_add_right _ _, repeats, closed⟩
  · rintro ⟨p, walk, -, -, closed⟩
    rw [← eq_of_repeats repeats walk] at closed
    exact closed

theorem loopsFrom_zero_of_fresh {trail : List Node} {node : Node}
    (fresh : node.group ∉ trail.map (·.group)) : loopsFrom graph 0 trail node = [] := by
  unfold loopsFrom
  rw [if_neg fun h => fresh (walkedThrough_iff.1 h)]
  cases graph.find? node.group <;> rfl

/-- From a group that does not repeat, the search finds what it finds one step further. -/
theorem mem_loopsFrom_succ_of_fresh {room : Nat} {trail : List Node} {node : Node} {found : Loop}
    (fresh : node.group ∉ trail.map (·.group)) :
    found ∈ loopsFrom graph (room + 1) trail node ↔
      ∃ q, Advances graph ⟨trail, node⟩ q ∧ found ∈ loopsFrom graph room q.trail q.node := by
  conv_lhs => unfold loopsFrom
  rw [if_neg fun h => fresh (walkedThrough_iff.1 h)]
  cases hg : graph.find? node.group with
  | none =>
    refine ⟨fun h => absurd h List.not_mem_nil, ?_⟩
    rintro ⟨q, step, -⟩
    obtain ⟨group, there⟩ := Graph.contains_iff.1 step.exists_group
    rw [hg] at there
    exact absurd there (by simp)
  | some group =>
    have ending := Graph.isEnding_of_find? hg
    simp only
    split
    · next ends =>
      refine ⟨fun h => absurd h List.not_mem_nil, ?_⟩
      rintro ⟨q, step, -⟩
      have goesOn : graph.isEnding node.group = false := step.goesOn
      rw [ending, ends] at goesOn
      exact absurd goesOn (by simp)
    · next goesOn =>
      rw [List.mem_flatMap]
      constructor
      · rintro ⟨next, continues, member⟩
        obtain ⟨variant, member, below⟩ := List.mem_flatMap.1 member
        refine ⟨⟨node :: trail, variant⟩, ⟨fresh, Graph.contains_of_find? hg, ?_, rfl, ?_⟩, below⟩
        · exact ending.trans (Bool.eq_false_iff.2 goesOn)
        · exact ⟨next, continues, member⟩
      · rintro ⟨⟨trail', variant⟩, step, below⟩
        obtain ⟨next, continues, member⟩ := step.continues
        have same : trail' = node :: trail := step.trail_eq
        subst same
        exact ⟨next, continues, List.mem_flatMap.2 ⟨variant, member, below⟩⟩

/-- **The search finds what is closed at the positions its steps lead to**, as far as the room
allows. -/
theorem mem_loopsFrom_iff {room : Nat} {trail : List Node} {node : Node} {found : Loop} :
    found ∈ loopsFrom graph room trail node ↔
      ∃ p, Relation.ReflTransGen (Advances graph) ⟨trail, node⟩ p ∧
        p.trail.length ≤ trail.length + room ∧ Closes p found := by
  induction room generalizing trail node with
  | zero =>
    by_cases repeats : node.group ∈ trail.map (·.group)
    · exact mem_loopsFrom_iff_of_repeats repeats
    · rw [loopsFrom_zero_of_fresh repeats]
      refine ⟨fun h => absurd h List.not_mem_nil, ?_⟩
      rintro ⟨p, walk, short, closes⟩
      rcases Relation.ReflTransGen.cases_head walk with h | ⟨next, step, walk⟩
      · rw [← h] at closes
        exact absurd closes.1 repeats
      · have longer := length_trail_le walk
        rw [step.trail_eq, List.length_cons] at longer
        simp only at longer
        omega
  | succ room ih =>
    by_cases repeats : node.group ∈ trail.map (·.group)
    · exact mem_loopsFrom_iff_of_repeats repeats
    · rw [mem_loopsFrom_succ_of_fresh repeats]
      constructor
      · rintro ⟨q, step, below⟩
        obtain ⟨p, walk, short, closes⟩ := ih.1 below
        refine ⟨p, .head step walk, ?_, closes⟩
        rw [step.trail_eq, List.length_cons] at short
        simp only at short
        omega
      · rintro ⟨p, walk, short, closes⟩
        rcases Relation.ReflTransGen.cases_head walk with h | ⟨q, step, walk⟩
        · rw [← h] at closes
          exact absurd closes.1 repeats
        · refine ⟨q, step, ih.2 ⟨p, walk, ?_, closes⟩⟩
          rw [step.trail_eq, List.length_cons]
          simp only
          omega

/-! ### What every step keeps -/

/-- A position to which choices lead from a start, group after group, without a repetition before the
variant that is entered. -/
structure Walked (graph : Graph) (p : Position) : Prop where
  /-- The variants are variants of the graph. -/
  inGraph : ∀ node ∈ p.node :: p.trail,
    ∃ group, graph.find? node.group = some group ∧ node ∈ group.variants
  /-- Each variant is entered by a choice of the one before it. -/
  chosen : (p.node :: p.trail).IsChain fun node before => node.group ∈ before.targets
  /-- The story may start where the walk does. -/
  started : ∃ first, (p.node :: p.trail).getLast? = some first ∧ graph.startsAt first.group = true
  distinct : (p.trail.map (·.group)).Nodup
  /-- The story does not end on the way. -/
  goesOn : ∀ node ∈ p.trail, graph.isEnding node.group = false
  /-- A group that was walked through before the last one may be entered again. -/
  returns : p.node.group ∈ (p.trail.map (·.group)).tail → graph.mayReturnTo p.node.group = true

theorem walked_of_mem_startNodes (wf : graph.WellFormed) {node : Node}
    (start : node ∈ graph.startNodes) : Walked graph ⟨[], node⟩ := by
  obtain ⟨name, group, found, starts, member⟩ := Graph.mem_startNodes_iff.1 start
  have named : node.group = name := wf.group_eq found member
  subst named
  exact {
    inGraph := fun other h => by
      rw [List.mem_singleton] at h
      subst h
      exact ⟨group, found, member⟩
    chosen := List.isChain_singleton _
    started := ⟨node, rfl, starts⟩
    distinct := List.nodup_nil
    goesOn := fun other h => absurd h List.not_mem_nil
    returns := fun h => absurd h List.not_mem_nil }

/-- **A step leads from a walked position to a walked position.** -/
theorem Walked.advance (wf : graph.WellFormed) {p q : Position} (walked : Walked graph p)
    (step : Advances graph p q) : Walked graph q := by
  obtain ⟨trail, node⟩ := q
  have same : trail = p.node :: p.trail := step.trail_eq
  subst same
  obtain ⟨next, continues, member⟩ := step.continues
  obtain ⟨successor, allowed⟩ := List.mem_filter.1 continues
  obtain ⟨name, target, found⟩ := Graph.mem_successors_iff.1 successor
  have named : node.group = name := wf.group_eq found member
  have nextNamed : next.name = name := wf.name_eq found
  subst named
  exact {
    inGraph := fun other h => by
      rcases List.mem_cons.1 h with rfl | h
      · exact ⟨next, found, member⟩
      · exact walked.inGraph other h
    chosen := List.isChain_cons_cons.2 ⟨target, walked.chosen⟩
    started := by
      obtain ⟨first, last, starts⟩ := walked.started
      exact ⟨first, by rw [List.getLast?_cons_cons, last], starts⟩
    distinct := List.nodup_cons.2 ⟨step.fresh, walked.distinct⟩
    goesOn := fun other h => by
      rcases List.mem_cons.1 h with rfl | h
      · exact step.goesOn
      · exact walked.goesOn other h
    returns := fun again => by
      rw [Bool.or_eq_true, Bool.not_eq_true', Bool.eq_false_iff, Ne, walkedThrough_iff,
        nextNamed] at allowed
      rw [Graph.mayReturnTo_of_find? found]
      exact allowed.resolve_right fun fresh => fresh again }

/-- **Every position that the search comes to is walked.** -/
theorem walked_of_reflTransGen (wf : graph.WellFormed) {node : Node} {p : Position}
    (start : node ∈ graph.startNodes)
    (walk : Relation.ReflTransGen (Advances graph) ⟨[], node⟩ p) : Walked graph p := by
  induction walk with
  | refl => exact walked_of_mem_startNodes wf start
  | tail _ step ih => exact ih.advance wf step

/-- **The room is enough**: a trail is no longer than the number of groups. -/
theorem Walked.length_trail_le {p : Position} (walked : Walked graph p) :
    p.trail.length ≤ graph.groupCount := by
  have short : (p.trail.map (·.group)).length ≤ graph.groupCount := by
    refine Graph.length_le_groupCount walked.distinct fun name h => ?_
    obtain ⟨node, member, rfl⟩ := List.mem_map.1 h
    obtain ⟨group, found, -⟩ := walked.inGraph node (List.mem_cons_of_mem _ member)
    exact Graph.contains_of_find? found
  rwa [List.length_map] at short

theorem Walked.isChain_links {p : Position} (walked : Walked graph p) :
    ((p.node :: p.trail).reverse.map (·.group)).IsChain graph.Links := by
  rw [List.isChain_map, List.isChain_reverse]
  refine List.IsChain.imp_of_mem_imp ?_ walked.chosen
  intro node before member earlier target
  obtain ⟨group, found, -⟩ := walked.inGraph node member
  obtain ⟨group', found', variant⟩ := walked.inGraph before earlier
  exact ⟨Graph.contains_of_find? found, group', found', before, variant, target⟩

/-! ### Cycles that a reader can come into -/

/-- The reader goes on from a group that is not on the cycle. -/
def PassesOutside (graph : Graph) (cycle : List String) (name next : String) : Prop :=
  name ∉ cycle ∧ graph.Passes name next

/-- The groups of a cycle that a reader can come into and walk round. -/
structure Enterable (graph : Graph) (cycle : List String) : Prop where
  nonempty : cycle ≠ []
  distinct : cycle.Nodup
  /-- Each group is linked to the next one, and the last to the first. -/
  linked : (closed cycle).IsChain graph.Links
  /-- The story does not end on the cycle. -/
  goesOn : ∀ name ∈ cycle, graph.isEnding name = false
  /-- A reader comes to it from a start, and may come back to the group where that happens, unless it is
  the only one. -/
  entered : ∃ entry ∈ cycle, (cycle.length = 1 ∨ graph.mayReturnTo entry = true) ∧
    ∃ start, graph.startsAt start = true ∧
      Relation.ReflTransGen (PassesOutside graph cycle) start entry

/-- The cycle is the same from wherever it is walked. -/
theorem Enterable.of_isRotated {cycle other : List String} (h : Enterable graph cycle)
    (rotation : cycle ~r other) : Enterable graph other where
  nonempty := by
    intro empty
    rw [empty, List.isRotated_nil_iff] at rotation
    exact h.nonempty rotation
  distinct := rotation.nodup_iff.1 h.distinct
  linked := isChain_closed_of_isRotated rotation h.linked
  goesOn := fun name member => h.goesOn name (rotation.mem_iff.2 member)
  entered := by
    obtain ⟨entry, member, back, start, starts, way⟩ := h.entered
    refine ⟨entry, rotation.mem_iff.1 member, ?_, start, starts, ?_⟩
    · rwa [← rotation.perm.length_eq]
    · refine Relation.ReflTransGen.mono ?_ _ _ way
      rintro name next ⟨outside, passes⟩
      exact ⟨fun member => outside (rotation.mem_iff.2 member), passes⟩

/-- A simple way from a start to a group, and from there once round a cycle. -/
structure Lasso (graph : Graph) (approach : List String) (entry : String) (rest : List String) :
    Prop where
  /-- The story may start where the way does. -/
  started : ∃ start, (approach ++ [entry]).head? = some start ∧ graph.startsAt start = true
  /-- Each group is linked to the next one, and the last to the entry. -/
  linked : (approach ++ entry :: rest ++ [entry]).IsChain graph.Links
  distinct : (approach ++ entry :: rest).Nodup
  /-- The story does not end on the way or on the cycle. -/
  goesOn : ∀ name ∈ approach ++ entry :: rest, graph.isEnding name = false
  /-- The entry may be entered again, unless it is the only group of the cycle. -/
  returns : rest = [] ∨ graph.mayReturnTo entry = true

/-- **The cycle of a lasso can be entered.** -/
theorem Lasso.enterable {approach : List String} {entry : String} {rest : List String}
    (lasso : Lasso graph approach entry rest) : Enterable graph (entry :: rest) where
  nonempty := List.cons_ne_nil _ _
  distinct := (List.nodup_append.1 lasso.distinct).2.1
  linked := by
    have chain := lasso.linked
    rw [List.append_assoc] at chain
    exact chain.right_of_append
  goesOn := fun name member => lasso.goesOn name (List.mem_append_right _ member)
  entered := by
    obtain ⟨start, begins, starts⟩ := lasso.started
    have chain := lasso.linked
    rw [List.append_assoc, List.cons_append, List.isChain_split] at chain
    have outside : ∀ name ∈ approach, name ∉ entry :: rest ∧ graph.isEnding name = false := by
      intro name member
      refine ⟨fun inside => ?_, lasso.goesOn name (List.mem_append_left _ member)⟩
      exact (List.nodup_append.1 lasso.distinct).2.2 name member name inside rfl
    refine ⟨entry, List.mem_cons_self, ?_, start, starts, ?_⟩
    · exact lasso.returns.imp_left fun alone => by rw [alone]; rfl
    · refine Relation.ReflTransGen.mono ?_ _ _ (reflTransGen_of_isChain chain.1 begins outside)
      rintro name next ⟨⟨outside, goesOn⟩, links⟩
      exact ⟨outside, goesOn, links⟩

/-- **To every enterable cycle there is a lasso**: the way to it is made simple, and the cycle is walked
from where the way comes to it. -/
theorem Enterable.exists_lasso {cycle : List String} (h : Enterable graph cycle) :
    ∃ approach entry rest, cycle ~r entry :: rest ∧ Lasso graph approach entry rest := by
  obtain ⟨entry, onCycle, back, start, starts, way⟩ := h.entered
  obtain ⟨before, after, split⟩ := List.append_of_mem onCycle
  have rotation : cycle ~r entry :: (after ++ before) := by
    rw [split]
    exact List.isRotated_append
  have turned := h.of_isRotated rotation
  obtain ⟨approach, chain, simple, begins⟩ := exists_nodup_chain way
  have outside : ∀ name ∈ approach, name ∉ cycle ∧ graph.isEnding name = false := by
    intro name member
    obtain ⟨next, notOn, passes⟩ := exists_rel_of_mem_isChain chain name member
    exact ⟨notOn, passes.1⟩
  refine ⟨approach, entry, after ++ before, rotation, ⟨start, begins, starts⟩, ?_, ?_, ?_, ?_⟩
  · rw [List.append_assoc, List.cons_append, List.isChain_split]
    exact ⟨chain.imp fun name next step => step.2.2, turned.linked⟩
  · refine List.nodup_append.2 ⟨(List.nodup_append.1 simple).1, turned.distinct, ?_⟩
    rintro name member other on rfl
    exact (outside name member).1 (rotation.mem_iff.2 on)
  · intro name member
    rcases List.mem_append.1 member with member | member
    · exact (outside name member).2
    · exact turned.goesOn name member
  · refine back.imp_left fun alone => ?_
    rw [rotation.perm.length_eq, List.length_cons, Nat.add_eq_right] at alone
    exact List.eq_nil_of_length_eq_zero alone

/-- **A loop that is closed at a walked position is along the cycle of a lasso.** -/
theorem exists_lasso_of_closes {p : Position} {found : Loop} (walked : Walked graph p)
    (closes : Closes p found) :
    ∃ approach entry rest, Lasso graph approach entry rest ∧
      found.canonical = canonicalCycle (entry :: rest) := by
  obtain ⟨repeats, closed⟩ := closes
  obtain ⟨approach, first, rest, split, same, other, rfl⟩ := Loop.closing?_eq_some_iff.1 closed
  -- the groups in the order in which they were walked, the trail cut where the loop begins
  have trailNames : (p.trail.map (·.group)).reverse =
      approach.map (·.group) ++ first.group :: rest.map (·.group) := by
    rw [← List.map_reverse, split, List.map_append, List.map_cons]
  have names : (p.node :: p.trail).reverse.map (·.group) =
      approach.map (·.group) ++ first.group :: rest.map (·.group) ++ [first.group] := by
    rw [List.reverse_cons, List.map_append, List.map_reverse, trailNames, List.map_singleton, same]
  refine ⟨approach.map (·.group), first.group, rest.map (·.group), ⟨?_, ?_, ?_, ?_, ?_⟩, rfl⟩
  · obtain ⟨start, last, starts⟩ := walked.started
    refine ⟨start.group, ?_, starts⟩
    have h : ((p.node :: p.trail).reverse.map (·.group)).head? = some start.group := by
      rw [List.head?_map, List.head?_reverse, last, Option.map_some]
    rw [names] at h
    cases approach <;> exact h
  · rw [← names]
    exact walked.isChain_links
  · rw [← trailNames, List.nodup_reverse]
    exact walked.distinct
  · intro name member
    rw [← trailNames, List.mem_reverse] at member
    obtain ⟨node, onTrail, rfl⟩ := List.mem_map.1 member
    exact walked.goesOn node onTrail
  · -- the entry was walked through before the last group, unless the last group is the entry
    cases hr : rest.reverse with
    | nil =>
      rw [List.reverse_eq_nil_iff] at hr
      exact .inl (by rw [hr, List.map_nil])
    | cons latest between =>
      have backwards : p.trail = rest.reverse ++ first :: approach.reverse := by
        rw [← List.reverse_reverse p.trail, split, List.reverse_append, List.reverse_cons,
          List.append_assoc]
        rfl
      refine .inr (same ▸ walked.returns ?_)
      rw [backwards, hr, ← same]
      simp

/-! ### Following names -/

/-- A choice can be followed from a group that is met for the first time, if it leads to one that may be
entered again or has not been walked through. -/
theorem advances_of_target (wf : graph.WellFormed) {trail : List Node} {name next : String}
    {group target : Group} {node variant : Node} (found : graph.find? name = some group)
    (member : node ∈ group.variants) (choice : next ∈ node.targets)
    (foundNext : graph.find? next = some target) (entered : variant ∈ target.variants)
    (fresh : name ∉ trail.map (·.group)) (goesOn : graph.isEnding name = false)
    (allowed : graph.mayReturnTo next = true ∨ next ∉ trail.map (·.group)) :
    Advances graph ⟨trail, node⟩ ⟨node :: trail, variant⟩ := by
  have named : node.group = name := wf.group_eq found member
  subst named
  refine ⟨fresh, Graph.contains_of_find? found, goesOn, rfl, target, ?_, entered⟩
  refine List.mem_filter.2 ⟨Graph.mem_successors_iff.2 ⟨next, choice, foundNext⟩, ?_⟩
  rw [Bool.or_eq_true, Bool.not_eq_true', Bool.eq_false_iff, Ne, walkedThrough_iff,
    wf.name_eq foundNext, ← Graph.mayReturnTo_of_find? foundNext]
  exact allowed

/-- **The search follows linked names.**  It walks through the groups of a list to a group that the last
of them is linked to, taking in each group the variant that offers the choice. -/
theorem exists_walk (wf : graph.WellFormed) {final : String} :
    ∀ (rest : List String) (name : String) (trail : List Node),
      (name :: rest ++ [final]).IsChain graph.Links →
      (name :: rest).Nodup →
      (∀ other ∈ name :: rest, other ∉ trail.map (·.group)) →
      (∀ other ∈ name :: rest, graph.isEnding other = false) →
      (graph.mayReturnTo final = true ∨
        final ∉ (name :: rest).dropLast ++ trail.map (·.group)) →
      ∃ group node, graph.find? name = some group ∧ node ∈ group.variants ∧
        ∃ p, Relation.ReflTransGen (Advances graph) ⟨trail, node⟩ p ∧
          p.trail.map (·.group) = (name :: rest).reverse ++ trail.map (·.group) ∧
          p.node.group = final
  | [], name, trail, chain, _, fresh, goesOn, allowed => by
    obtain ⟨there, group, found, node, member, choice⟩ : graph.Links name final := by
      simpa using chain
    obtain ⟨target, foundFinal⟩ := Graph.contains_iff.1 there
    obtain ⟨variant, entered⟩ := List.exists_mem_of_ne_nil _ (wf.variants_ne_nil foundFinal)
    have named : node.group = name := wf.group_eq found member
    have step := advances_of_target wf found member choice foundFinal entered
      (fresh name List.mem_cons_self) (goesOn name List.mem_cons_self) (by simpa using allowed)
    refine ⟨group, node, found, member, ⟨node :: trail, variant⟩, .single step, ?_, ?_⟩
    · simp [named]
    · exact wf.group_eq foundFinal entered
  | second :: rest, name, trail, chain, distinct, fresh, goesOn, allowed => by
    rw [List.cons_append, List.cons_append, List.isChain_cons_cons] at chain
    obtain ⟨⟨-, group, found, node, member, choice⟩, chain⟩ := chain
    obtain ⟨notLater, distinct⟩ := List.nodup_cons.1 distinct
    have named : node.group = name := wf.group_eq found member
    have freshLater : ∀ other ∈ second :: rest, other ∉ (node :: trail).map (·.group) := by
      intro other h
      rw [List.map_cons, named, List.mem_cons, not_or]
      exact ⟨fun same => notLater (same ▸ h), fresh other (List.mem_cons_of_mem _ h)⟩
    have allowedLater : graph.mayReturnTo final = true ∨
        final ∉ (second :: rest).dropLast ++ (node :: trail).map (·.group) := by
      refine allowed.imp_right fun h => ?_
      rw [List.dropLast_cons_cons, List.cons_append, List.mem_cons, not_or, List.mem_append,
        not_or] at h
      rw [List.map_cons, named, List.mem_append, not_or, List.mem_cons, not_or]
      exact ⟨h.2.1, h.1, h.2.2⟩
    obtain ⟨target, variant, foundNext, entered, p, walk, names, last⟩ :=
      exists_walk wf rest second (node :: trail) chain distinct freshLater
        (fun other h => goesOn other (List.mem_cons_of_mem _ h)) allowedLater
    have step := advances_of_target wf found member choice foundNext entered
      (fresh name List.mem_cons_self) (goesOn name List.mem_cons_self)
      (.inr (fresh second (by simp)))
    refine ⟨group, node, found, member, p, .head step walk, ?_, last⟩
    rw [names, List.map_cons, named, List.reverse_cons (a := name), List.append_assoc]
    rfl

/-- **The cycle of every lasso is closed at a position that the search comes to.** -/
theorem Lasso.exists_closes (wf : graph.WellFormed) {approach : List String} {entry : String}
    {rest : List String} (lasso : Lasso graph approach entry rest) :
    ∃ node ∈ graph.startNodes, ∃ p, Relation.ReflTransGen (Advances graph) ⟨[], node⟩ p ∧
      ∃ found, Closes p found ∧ found.canonical = canonicalCycle (entry :: rest) := by
  have linked := lasso.linked
  have distinct := lasso.distinct
  have goesOn := lasso.goesOn
  have apart := (List.nodup_append.1 lasso.distinct).2.2
  have allowed : graph.mayReturnTo entry = true ∨ entry ∉ (approach ++ entry :: rest).dropLast := by
    refine lasso.returns.symm.imp_right fun alone => ?_
    rw [alone, List.dropLast_concat]
    exact fun member => apart entry member entry List.mem_cons_self rfl
  obtain ⟨start, begins, starts⟩ := lasso.started
  cases names : approach ++ entry :: rest with
  | nil => exact absurd names (by simp)
  | cons first others =>
    have same : first = start := by
      have heads : (approach ++ [entry]).head? = (approach ++ entry :: rest).head? := by
        cases approach <;> rfl
      rw [begins, names, List.head?_cons, Option.some.injEq] at heads
      exact heads.symm
    subst same
    rw [names] at linked distinct goesOn allowed
    obtain ⟨group, node, found, member, p, walk, trailNames, last⟩ :=
      exists_walk wf others first [] linked distinct (fun _ _ => List.not_mem_nil) goesOn
        (by rwa [List.map_nil, List.append_nil])
    refine ⟨node, Graph.mem_startNodes_iff.2 ⟨first, group, found, starts, member⟩, p, walk, ?_⟩
    -- the trail is cut where its names are
    rw [← names, List.map_nil, List.append_nil, ← List.reverse_eq_iff, ← List.map_reverse,
      List.map_eq_append_iff] at trailNames
    obtain ⟨nodes, body, cut, approachNames, bodyNames⟩ := trailNames
    obtain ⟨node', nodes', rfl, entryName, restNames⟩ := List.map_eq_cons_iff.1 bodyNames
    refine ⟨Loop.along (node' :: nodes'), ⟨?_, ?_⟩, ?_⟩
    · rw [← List.mem_reverse, ← List.map_reverse, cut, last, ← entryName]
      simp
    · refine Loop.closing?_eq_some_iff.2 ⟨nodes, node', nodes', cut, entryName.trans last.symm, ?_, rfl⟩
      intro node'' member same
      have inApproach : entry ∈ approach := by
        rw [← approachNames, ← last, ← same]
        exact List.mem_map_of_mem member
      exact apart entry inApproach entry List.mem_cons_self rfl
    · show canonicalCycle ((node' :: nodes').map (·.group)) = canonicalCycle (entry :: rest)
      rw [bodyNames]

/-! ### All loops -/

theorem exists_closes_of_mem_findLoopsWithin (wf : graph.WellFormed) {limit : Nat} {found : Loop}
    (member : found ∈ findLoopsWithin limit graph) : ∃ p, Walked graph p ∧ Closes p found := by
  obtain ⟨node, start, below⟩ := List.mem_flatMap.1 ((firstBy_sublist _ _).subset member)
  obtain ⟨p, walk, -, closes⟩ := mem_loopsFrom_iff.1 below
  exact ⟨p, walked_of_reflTransGen wf start walk, closes⟩

theorem nodup_canonicals_findLoopsWithin (limit : Nat) (graph : Graph) :
    ((findLoopsWithin limit graph).map (·.canonical)).Nodup :=
  List.pairwise_map.2 (pairwise_firstBy _ _)

/-- **The loops are the enterable cycles**, provided that the limit does not fall short of the number of
groups. -/
theorem mem_canonicals_findLoopsWithin_iff (wf : graph.WellFormed) {limit : Nat}
    (enough : graph.groupCount ≤ limit + 1) {names : List String} :
    names ∈ (findLoopsWithin limit graph).map (·.canonical) ↔
      ∃ cycle, Enterable graph cycle ∧ names = canonicalCycle cycle := by
  constructor
  · intro h
    obtain ⟨found, member, rfl⟩ := List.mem_map.1 h
    obtain ⟨p, walked, closes⟩ := exists_closes_of_mem_findLoopsWithin wf member
    obtain ⟨approach, entry, rest, lasso, same⟩ := exists_lasso_of_closes walked closes
    exact ⟨entry :: rest, lasso.enterable, same⟩
  · rintro ⟨cycle, enterable, rfl⟩
    obtain ⟨approach, entry, rest, rotation, lasso⟩ := enterable.exists_lasso
    obtain ⟨node, start, p, walk, found, closes, same⟩ := lasso.exists_closes wf
    rw [canonicalCycle_eq_iff.2 rotation]
    have short := (walked_of_reflTransGen wf start walk).length_trail_le
    rw [findLoopsWithin, mem_map_firstBy, ← same]
    refine List.mem_map_of_mem (List.mem_flatMap.2 ⟨node, start, mem_loopsFrom_iff.2 ?_⟩)
    refine ⟨p, walk, ?_, closes⟩
    rw [List.length_nil]
    omega

/-- **The loops of a story are the enterable cycles.** -/
theorem mem_canonicals_findLoops_iff (wf : graph.WellFormed) {names : List String} :
    names ∈ (findLoops graph).map (·.canonical) ↔
      ∃ cycle, Enterable graph cycle ∧ names = canonicalCycle cycle := by
  refine mem_canonicals_findLoopsWithin_iff wf ?_
  rw [loopDepthFactor]
  omega

/-- **Loop discovery is sound and complete.**  Whatever was inserted, the canonical forms of the loops
that are found are distinct, and they are those of the cycles that a reader can come into and walk
round. -/
theorem findLoops_ofInsertions_exact (history : List Graph.Insertion) :
    ((findLoops (Graph.ofInsertions history)).map (·.canonical)).Nodup ∧
      ∀ names, names ∈ (findLoops (Graph.ofInsertions history)).map (·.canonical) ↔
        ∃ cycle, Enterable (Graph.ofInsertions history) cycle ∧ names = canonicalCycle cycle :=
  ⟨nodup_canonicals_findLoopsWithin _ _, fun _ =>
    mem_canonicals_findLoops_iff (Graph.wellFormed_ofInsertions history)⟩

end Gamebook.Analysis
