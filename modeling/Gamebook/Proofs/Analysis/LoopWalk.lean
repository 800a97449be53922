import Gamebook.Check.Report
import Gamebook.Proofs.Analysis.LoopSearch

/-!
# A loop is a walk that can be walked

A loop is reported as the variants that were walked through.  This file says that they are a witness of
what is reported: in the order in which they stand, each of them has a choice that leads to the group of
the next one, and the last leads back to the first (`Loop.IsWalk`).

## The variant that closes a loop

The search sees a loop when it enters a variant of a group that it has walked through.  This variant is
not part of the loop: in its place the walk is closed by the earlier variant of the same group.  The two
may differ, and the choice that led to the one does not mention the other.  It names a group, though, and
so it is a choice that leads to either of them (`isChain_concat_of_forall`).

## The cut

Names and variants are rotated for themselves, both to where the names are least.  The walk was not cut
there, and the link across the old cut is the one with which the loop was closed.  A walk that is closed
may begin anywhere, so `Round`, which is what the search knows of the variants in their old order, holds
of them in the new one (`Round.of_isRotated`).
-/

namespace Gamebook.Analysis

open Gamebook.Check Gamebook.Story

/-- The last item of a chain may be replaced by one that is related to the same items. -/
theorem isChain_concat_of_forall {α : Type} {r : α → α → Prop} {items : List α} {last other : α}
    (chain : (items ++ [last]).IsChain r) (same : ∀ item, r item last → r item other) :
    (items ++ [other]).IsChain r := by
  rw [List.isChain_append] at chain ⊢
  obtain ⟨before, -, link⟩ := chain
  refine ⟨before, List.isChain_singleton _, fun item final next first => ?_⟩
  rw [List.head?_singleton, Option.mem_some_iff] at first
  exact first ▸ same item (link item final last rfl)

/-! ### Loops along any route -/

@[simp] theorem Loop.ofRoute?_concat (before : List Node) (last : Node) :
    Loop.ofRoute? (before ++ [last]) = Loop.closing? before last := by
  simp [Loop.ofRoute?]

/-- The route comes back to a group with its last variant, and the body is what was walked since it
first came to that group. -/
structure ComesBack (route approach body : List Node) (last : Node) : Prop where
  split : route = approach ++ body ++ [last]
  /-- The body begins in the group. -/
  begins : body.head?.map (·.group) = some last.group
  /-- Nothing before is in it. -/
  first : ∀ node ∈ approach, node.group ≠ last.group

/-- **A route has the loop along its body**, and none if it does not come back. -/
theorem Loop.ofRoute?_eq_some_iff {route : List Node} {found : Loop} :
    Loop.ofRoute? route = some found ↔
      ∃ approach body last, ComesBack route approach body last ∧ found = Loop.along body := by
  constructor
  · intro closed
    rcases List.eq_nil_or_concat route with rfl | ⟨before, last, rfl⟩
    · exact absurd closed nofun
    · rw [List.concat_eq_append, Loop.ofRoute?_concat, Loop.closing?_eq_some_iff] at closed
      obtain ⟨approach, first, rest, rfl, same, other, rfl⟩ := closed
      exact ⟨approach, first :: rest, last,
        ⟨List.concat_eq_append, congrArg some same, other⟩, rfl⟩
  · rintro ⟨approach, _ | ⟨first, rest⟩, last, ⟨rfl, begins, other⟩, rfl⟩
    · cases begins
    · rw [Loop.ofRoute?_concat, Loop.closing?_eq_some_iff]
      exact ⟨approach, first, rest, rfl, Option.some.inj begins, other, rfl⟩

/-- **A route has a loop exactly when its last group occurs before.** -/
theorem Loop.isSome_ofRoute?_iff {route : List Node} :
    (Loop.ofRoute? route).isSome = true ↔
      ∃ before last, route = before ++ [last] ∧ ∃ node ∈ before, node.group = last.group := by
  rw [Option.isSome_iff_exists]
  constructor
  · rintro ⟨found, closed⟩
    obtain ⟨approach, _ | ⟨first, rest⟩, last, ⟨rfl, begins, -⟩, -⟩ :=
      Loop.ofRoute?_eq_some_iff.1 closed
    · cases begins
    · exact ⟨_, last, rfl, first, by simp, Option.some.inj begins⟩
  · rintro ⟨before, last, rfl, node, member, same⟩
    rw [Loop.ofRoute?_concat, Loop.closing?]
    cases body : before.dropWhile fun node => decide (node.group ≠ last.group) with
    | nil =>
      have passed := List.dropWhile_eq_nil_iff.1 body node member
      exact absurd same (of_decide_eq_true passed)
    | cons first rest => exact ⟨_, rfl⟩

/-! ### The body of a loop -/

/-- A choice of the variant leads to the group of the next one. -/
def Offers (node next : Node) : Prop := next.group ∈ node.targets

instance (node next : Node) : Decidable (Offers node next) :=
  inferInstanceAs (Decidable (_ ∈ _))

/-- The variant is one of the graph. -/
def Tells (graph : Graph) (node : Node) : Prop :=
  ∃ group, graph.find? node.group = some group ∧ node ∈ group.variants

variable {graph : Graph}

/-- Variants of different groups that can be walked through in a round. -/
structure Round (graph : Graph) (body : List Node) : Prop where
  nonempty : body ≠ []
  inGraph : ∀ node ∈ body, Tells graph node
  /-- Each variant has a choice that leads to the group of the next one, and the last to that of the
  first. -/
  offered : (closed body).IsChain Offers
  distinct : (body.map (·.group)).Nodup
  /-- The story does not end on the way. -/
  goesOn : ∀ node ∈ body, graph.isEnding node.group = false

/-- A round may begin with any of its variants. -/
theorem Round.of_isRotated {body other : List Node} (round : Round graph body)
    (rotation : body ~r other) : Round graph other where
  nonempty empty := by
    rw [empty, List.isRotated_nil_iff] at rotation
    exact round.nonempty rotation
  inGraph node member := round.inGraph node (rotation.mem_iff.2 member)
  offered := isChain_closed_of_isRotated rotation round.offered
  distinct := (rotation.map (·.group)).nodup_iff.1 round.distinct
  goesOn node member := round.goesOn node (rotation.mem_iff.2 member)

/-- **What the search has walked when a loop is closed is a round.** -/
theorem Walked.exists_round {p : Position} {found : Loop} (walked : Walked graph p)
    (closes : Closes p found) : ∃ body, Round graph body ∧ found = Loop.along body := by
  obtain ⟨-, closed⟩ := closes
  obtain ⟨approach, first, rest, split, same, -, rfl⟩ := Loop.closing?_eq_some_iff.1 closed
  have onTrail : ∀ node ∈ first :: rest, node ∈ p.trail := by
    intro node member
    rw [← List.mem_reverse, split]
    exact List.mem_append_right _ member
  -- the walk in the order in which it was made, up to the variant that closes the loop
  have walk : (approach ++ (first :: rest ++ [p.node])).IsChain Offers := by
    rw [← List.append_assoc, ← split, ← List.reverse_cons, List.isChain_reverse]
    exact walked.chosen
  have names := walked.distinct
  rw [← List.nodup_reverse, ← List.map_reverse, split, List.map_append] at names
  refine ⟨first :: rest, ⟨List.cons_ne_nil _ _, ?_, ?_, ?_, ?_⟩, rfl⟩
  · exact fun node member => walked.inGraph node (List.mem_cons_of_mem _ (onTrail node member))
  · refine isChain_concat_of_forall walk.right_of_append fun node offers => ?_
    rw [Offers, same]
    exact offers
  · exact (List.nodup_append.1 names).2.1
  · exact fun node member => walked.goesOn node (onTrail node member)

/-! ### The walk of a loop -/

/-- The variants of a loop can be walked through in the order in which they stand, and they belong to
the groups of its canonical form. -/
structure Loop.IsWalk (graph : Graph) (found : Loop) : Prop where
  /-- Groups and variants correspond place by place. -/
  aligned : found.nodes.map (·.group) = found.canonical
  /-- The walk ends with the variant that it begins with. -/
  closes : ∃ first between, found.nodes = first :: between ++ [first]
  /-- No group is met twice before that. -/
  distinct : (found.nodes.dropLast.map (·.group)).Nodup
  /-- The story does not end on the way. -/
  goesOn : ∀ node ∈ found.nodes.dropLast, graph.isEnding node.group = false
  /-- Each variant but the last has a choice that leads to the group of the next one. -/
  offered : found.nodes.IsChain Offers
  inGraph : ∀ node ∈ found.nodes, Tells graph node

theorem Round.isWalk {body : List Node} (round : Round graph body) :
    (Loop.along body).IsWalk graph := by
  have turned := round.of_isRotated (isRotated_rotated body (leastRotation (body.map (·.group))))
  refine ⟨Loop.groups_along body, ?_, ?_, ?_, turned.offered, ?_⟩
  · obtain ⟨first, between, order⟩ := List.exists_cons_of_ne_nil turned.nonempty
    exact ⟨first, between, by rw [Loop.along, order, closed]⟩
  · rw [Loop.along, dropLast_closed]
    exact turned.distinct
  · rw [Loop.along, dropLast_closed]
    exact turned.goesOn
  · exact fun node member => turned.inGraph node (mem_closed.1 member)

theorem isWalk_of_mem_findLoops (wf : graph.WellFormed) {found : Loop}
    (member : found ∈ findLoops graph) : found.IsWalk graph := by
  obtain ⟨p, walked, closes⟩ := exists_closes_of_mem_findLoopsWithin wf member
  obtain ⟨body, round, rfl⟩ := walked.exists_round closes
  exact round.isWalk

/-- The document tells the group of that name. -/
def IsToldBy (graph : Graph) (name sourceId : String) : Prop :=
  ∃ group, graph.find? name = some group ∧ ∃ node ∈ group.variants, node.sourceId = sourceId

/-- **The source ids of a loop are those of variants of its groups**, as many and in the same order. -/
theorem Loop.IsWalk.forall₂_isToldBy {found : Loop} (walk : found.IsWalk graph) :
    List.Forall₂ (IsToldBy graph) found.canonical found.sourceIds := by
  rw [← walk.aligned, Loop.sourceIds, List.forall₂_map_left_iff, List.forall₂_map_right_iff,
    List.forall₂_same]
  intro node member
  obtain ⟨group, there, variant⟩ := walk.inGraph node member
  exact ⟨group, there, node, variant, rfl⟩

/-- **Every loop that is reported can be walked.**

The variants of a loop belong to the groups of its canonical form, place by place.  The walk ends with
the variant that it begins with; before that it meets no group twice and no ending, and each of its
variants has a choice that leads to the group of the next one.  The offender that is made of it has the
canonical form and the source ids of the variants, so each source id is that of a variant of the group at
the same place.

Whatever the route, a loop is cut from it exactly when its last group occurs before, and the variants of
the loop are then a rotation of what was walked since the first time. -/
theorem loops_are_aligned_walks (history : List Graph.Insertion) :
    (∀ found ∈ findLoops (.ofInsertions history),
      found.IsWalk (.ofInsertions history) ∧
        Offender.ofLoop found = .loop found.canonical (found.nodes.map (·.sourceId)) ∧
        List.Forall₂ (IsToldBy (.ofInsertions history)) found.canonical
          (found.nodes.map (·.sourceId))) ∧
      ∀ route,
        ((Loop.ofRoute? route).isSome = true ↔
          ∃ before last, route = before ++ [last] ∧ ∃ node ∈ before, node.group = last.group) ∧
        ∀ found, Loop.ofRoute? route = some found →
          ∃ approach body last, ComesBack route approach body last ∧
            body ~r found.nodes.dropLast ∧ found.nodes.map (·.group) = found.canonical := by
  refine ⟨fun found member => ?_, fun route => ⟨Loop.isSome_ofRoute?_iff, fun found closed => ?_⟩⟩
  · have walk := isWalk_of_mem_findLoops (Graph.wellFormed_ofInsertions history) member
    exact ⟨walk, rfl, walk.forall₂_isToldBy⟩
  · obtain ⟨approach, body, last, back, rfl⟩ := Loop.ofRoute?_eq_some_iff.1 closed
    refine ⟨approach, body, last, back, ?_, Loop.groups_along body⟩
    rw [Loop.along, dropLast_closed]
    exact isRotated_rotated body _

/-- A gate, and behind it a yard that is told twice: one document stops there, and the other goes on into
an alley that leads back to the yard. -/
def gateAndAlley : List Graph.Insertion :=
  [{ node := { sourceId := "1", group := "gate", choices := .ofList [("In", "yard")] }
     said := { start? := some true } },
   { node := { sourceId := "2", group := "yard" } },
   { node := { sourceId := "3", group := "yard", choices := .ofList [("On", "alley")] } },
   { node := { sourceId := "4", group := "alley", choices := .ofList [("Back", "yard")] } }]

/-- The loop of the yard and the alley is closed by the variant from which nothing leads on. -/
theorem walk_gateAndAlley :
    (∃ found ∈ findLoops (.ofInsertions gateAndAlley), found.sourceIds = ["4", "3", "4"] ∧
        found.IsWalk (.ofInsertions gateAndAlley)) ∧
      ∃ route found, route.map (·.sourceId) = ["1", "3", "4", "2"] ∧
        Loop.ofRoute? route = some found ∧
        ∃ approach body last, ComesBack route approach body last ∧ body ~r found.nodes.dropLast := by
  obtain ⟨loops, routes⟩ := loops_are_aligned_walks gateAndAlley
  constructor
  · have listed : ["4", "3", "4"] ∈
        (findLoops (.ofInsertions gateAndAlley)).map (·.sourceIds) := by decide +kernel
    obtain ⟨found, member, ids⟩ := List.mem_map.1 listed
    exact ⟨found, member, ids, (loops found member).1⟩
  · -- the gate, the yard that goes on, the alley, and the yard that stops
    let route := [0, 2, 3, 1].map fun place => (gateAndAlley.map (·.node)).getD place default
    obtain ⟨-, cut⟩ := routes route
    obtain ⟨found, closed⟩ := Option.isSome_iff_exists.1
      (by decide +kernel : (Loop.ofRoute? route).isSome = true)
    obtain ⟨approach, body, last, back, rotation, -⟩ := cut found closed
    exact ⟨route, found, by decide +kernel, closed, approach, body, last, back, rotation⟩

end Gamebook.Analysis
