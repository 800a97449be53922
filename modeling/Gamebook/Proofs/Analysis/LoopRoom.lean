import Gamebook.Analysis.Escape
import Gamebook.Proofs.Analysis.LoopSearch

/-!
# The room of the loop search is never used up

The loop search carries a bound on the number of variants that it walks through.  This file says that the
bound has no part in what is found: without it the search ends all the same, and it finds the same loops
in the same order (`RoomSuffices`).

## The calls of the search

The search calls itself for a position, the variant that is entered with the trail of those walked
through.  `positionsFrom` lists these calls in the order in which they are made, and what the search finds
is what is closed at them, one after the other (`loopsFrom_eq_filterMap_positionsFrom`).  So whatever holds
of every position to which its steps lead holds at every call.

## Why there is room

Room is asked for when a group is entered for the first time (`AsksForRoom`).  The groups on the trail are
then distinct, and they are not the one that is entered; all of them exist.  So they are fewer than the
groups of the story, and a call is cut off only by a limit that is smaller still (`not_cutOff`).

## Why the search ends without a bound

A story may go round for ever, but the search does not go on from a group that it has walked through.
Whenever it does go on, a group has joined the trail that was not on it, and fewer names are left
(`unvisitedNames_lt_of_advances`).  The search without a bound recurs on their number.  It differs from the
one with a bound at the calls that are cut off and nowhere else (`loopsFrom_eq_unboundedLoopsFrom`).
-/

namespace Gamebook.Analysis

open Gamebook.Story

variable {graph : Graph}

/-! ### The calls of the search -/

/-- The loop that is closed at a position. -/
def Position.loop? (p : Position) : Option Loop :=
  if walkedThrough p.trail p.node.group then Loop.closing? p.trail.reverse p.node else none

/-- The positions to which the search goes on, in their order. -/
def nextPositions (graph : Graph) (p : Position) : List Position :=
  if walkedThrough p.trail p.node.group then []
  else
    match graph.find? p.node.group with
    | none => []
    | some group =>
      if group.isEnding then []
      else
        (continuations graph p.trail p.node).flatMap fun next =>
          next.variants.map fun variant => ⟨p.node :: p.trail, variant⟩

/-- **The search goes on by its steps.** -/
theorem mem_nextPositions_iff {p q : Position} : q ∈ nextPositions graph p ↔ Advances graph p q := by
  constructor
  · intro member
    rw [nextPositions] at member
    split at member
    · exact absurd member List.not_mem_nil
    · next fresh =>
      split at member
      · exact absurd member List.not_mem_nil
      · next group found =>
        split at member
        · exact absurd member List.not_mem_nil
        · next goesOn =>
          obtain ⟨next, continues, member⟩ := List.mem_flatMap.1 member
          obtain ⟨variant, entered, rfl⟩ := List.mem_map.1 member
          refine ⟨fun h => fresh (walkedThrough_iff.2 h), Graph.contains_of_find? found, ?_, rfl, next,
            continues, entered⟩
          rw [Graph.isEnding_of_find? found, Bool.eq_false_iff]
          exact goesOn
  · intro step
    obtain ⟨group, found⟩ := Graph.contains_iff.1 step.exists_group
    have goesOn := step.goesOn
    rw [Graph.isEnding_of_find? found] at goesOn
    obtain ⟨next, continues, entered⟩ := step.continues
    rw [nextPositions, if_neg fun h => step.fresh (walkedThrough_iff.1 h), found]
    simp only [goesOn]
    refine List.mem_flatMap.2 ⟨next, continues, List.mem_map.2 ⟨q.node, entered, ?_⟩⟩
    rw [← step.trail_eq]

/-- The positions for which the search calls itself, the first one included, in the order of the calls. -/
def positionsFrom (graph : Graph) : (room : Nat) → Position → List Position
  | 0, p => [p]
  | room + 1, p => p :: (nextPositions graph p).flatMap (positionsFrom graph room)

theorem loopsFrom_zero (p : Position) : loopsFrom graph 0 p.trail p.node = p.loop?.toList := by
  unfold loopsFrom Position.loop?
  split
  · rfl
  · cases graph.find? p.node.group <;> rfl

theorem loopsFrom_succ (room : Nat) (p : Position) :
    loopsFrom graph (room + 1) p.trail p.node =
      p.loop?.toList ++
        (nextPositions graph p).flatMap fun q => loopsFrom graph room q.trail q.node := by
  conv_lhs => unfold loopsFrom
  unfold Position.loop? nextPositions
  split
  · exact (List.append_nil _).symm
  · cases graph.find? p.node.group with
    | none => rfl
    | some group =>
      simp only
      split
      · rfl
      · simp only [List.flatMap_assoc, List.flatMap_map]
        rfl

/-- **The search finds what is closed at its calls**, one after the other. -/
theorem loopsFrom_eq_filterMap_positionsFrom (room : Nat) (p : Position) :
    loopsFrom graph room p.trail p.node = (positionsFrom graph room p).filterMap (·.loop?) := by
  induction room generalizing p with
  | zero =>
    rw [loopsFrom_zero, positionsFrom, List.filterMap_cons]
    cases p.loop? <;> rfl
  | succ room ih =>
    rw [loopsFrom_succ, positionsFrom, List.filterMap_cons, List.filterMap_flatMap]
    simp only [ih]
    cases p.loop? <;> rfl

/-- The search calls itself for positions only to which its steps lead. -/
theorem reflTransGen_of_mem_positionsFrom {room : Nat} {p q : Position}
    (member : q ∈ positionsFrom graph room p) : Relation.ReflTransGen (Advances graph) p q := by
  induction room generalizing p with
  | zero =>
    rw [positionsFrom, List.mem_singleton] at member
    rw [member]
  | succ room ih =>
    rw [positionsFrom, List.mem_cons, List.mem_flatMap] at member
    rcases member with rfl | ⟨next, follows, member⟩
    · exact .refl
    · exact .head (mem_nextPositions_iff.1 follows) (ih member)

/-- The positions for which the search with that limit calls itself, from the start variants on. -/
def positionsWithin (limit : Nat) (graph : Graph) : List Position :=
  graph.startNodes.flatMap fun node => positionsFrom graph (limit + 1) ⟨[], node⟩

theorem findLoopsWithin_eq (limit : Nat) (graph : Graph) :
    findLoopsWithin limit graph =
      firstBy (·.canonical) ((positionsWithin limit graph).filterMap (·.loop?)) := by
  rw [findLoopsWithin, positionsWithin, List.filterMap_flatMap]
  congr 2
  funext node
  exact loopsFrom_eq_filterMap_positionsFrom (limit + 1) ⟨[], node⟩

theorem walked_of_mem_positionsWithin (wf : graph.WellFormed) {limit : Nat} {p : Position}
    (member : p ∈ positionsWithin limit graph) : Walked graph p := by
  obtain ⟨node, start, member⟩ := List.mem_flatMap.1 member
  exact walked_of_reflTransGen wf start (reflTransGen_of_mem_positionsFrom member)

/-! ### Room for one more -/

/-- At the position the search asks whether there is room for the variant: a group is entered that was not
walked through, and the story does not end there. -/
structure AsksForRoom (graph : Graph) (p : Position) : Prop where
  fresh : p.node.group ∉ p.trail.map (·.group)
  exists_group : graph.contains p.node.group = true
  goesOn : graph.isEnding p.node.group = false

/-- The search with that limit goes no further from the position for want of room. -/
structure CutOff (graph : Graph) (limit : Nat) (p : Position) : Prop extends AsksForRoom graph p where
  full : limit < p.trail.length

theorem Advances.asksForRoom {p q : Position} (step : Advances graph p q) : AsksForRoom graph p :=
  ⟨step.fresh, step.exists_group, step.goesOn⟩

theorem nextPositions_eq_nil {p : Position} (stops : ¬ AsksForRoom graph p) :
    nextPositions graph p = [] :=
  List.eq_nil_iff_forall_not_mem.2 fun _ follows => stops (mem_nextPositions_iff.1 follows).asksForRoom

theorem Walked.contains_of_mem_trail {p : Position} (walked : Walked graph p) {name : String}
    (member : name ∈ p.trail.map (·.group)) : graph.contains name = true := by
  obtain ⟨node, onTrail, rfl⟩ := List.mem_map.1 member
  obtain ⟨group, found, -⟩ := walked.inGraph node (List.mem_cons_of_mem _ onTrail)
  exact Graph.contains_of_find? found

/-- **Where room is asked for, the trail is shorter than the number of groups.** -/
theorem AsksForRoom.length_trail_lt {p : Position} (asks : AsksForRoom graph p)
    (walked : Walked graph p) : p.trail.length < graph.groupCount := by
  have distinct : (p.node.group :: p.trail.map (·.group)).Nodup :=
    List.nodup_cons.2 ⟨asks.fresh, walked.distinct⟩
  have short := Graph.length_le_groupCount distinct
    (List.forall_mem_cons.2 ⟨asks.exists_group, fun _ => walked.contains_of_mem_trail⟩)
  rw [List.length_cons, List.length_map] at short
  exact short

/-! ### The search without a bound -/

/-- **A step leaves fewer names to walk through.** -/
theorem unvisitedNames_lt_of_advances {p q : Position} (step : Advances graph p q) :
    unvisitedNames graph (q.trail.map (·.group)) < unvisitedNames graph (p.trail.map (·.group)) := by
  obtain ⟨group, found⟩ := Graph.contains_iff.1 step.exists_group
  rw [step.trail_eq, List.map_cons]
  exact unvisitedNames_lt (NameTable.mem_names_of_find?_eq_some found) step.fresh

/-- **No walk of the search goes on for ever.** -/
theorem wellFounded_advances (graph : Graph) : WellFounded fun q p => Advances graph p q := by
  let left (p : Position) : Nat := unvisitedNames graph (p.trail.map (·.group))
  have fewer : Subrelation (fun q p => Advances graph p q) (InvImage (· < ·) left) :=
    fun step => unvisitedNames_lt_of_advances step
  exact fewer.wf (InvImage.wf left Nat.lt_wfRel.wf)

/-- The loops that the routes from a variant close, however long the routes are. -/
def unboundedLoopsFrom (graph : Graph) (trail : List Node) (node : Node) : List Loop :=
  if _repeats : walkedThrough trail node.group then (Loop.closing? trail.reverse node).toList
  else
    match _found : graph.find? node.group with
    | none => []
    | some group =>
      if group.isEnding then []
      else
        (continuations graph trail node).flatMap fun next =>
          next.variants.flatMap fun variant => unboundedLoopsFrom graph (node :: trail) variant
termination_by unvisitedNames graph (trail.map (·.group))
decreasing_by
  exact unvisitedNames_lt (NameTable.mem_names_of_find?_eq_some _found)
    fun h => _repeats (walkedThrough_iff.2 h)

/-- The distinct loops of the routes from the start groups, however long the routes are. -/
def findLoopsUnbounded (graph : Graph) : List Loop :=
  firstBy (·.canonical) (graph.startNodes.flatMap (unboundedLoopsFrom graph []))

theorem unboundedLoopsFrom_eq (p : Position) :
    unboundedLoopsFrom graph p.trail p.node =
      p.loop?.toList ++
        (nextPositions graph p).flatMap fun q => unboundedLoopsFrom graph q.trail q.node := by
  conv_lhs => unfold unboundedLoopsFrom
  unfold Position.loop? nextPositions
  split
  · exact (List.append_nil _).symm
  · split
    · next missing =>
      simp only [missing]
      rfl
    · next group found =>
      simp only [found]
      split
      · rfl
      · simp only [List.flatMap_assoc, List.flatMap_map]
        rfl

/-- **Where there is room whenever it is asked for**, the search finds what it finds without a bound. -/
theorem loopsFrom_eq_unboundedLoopsFrom {room : Nat} {p : Position}
    (ample : ∀ q ∈ positionsFrom graph room p, AsksForRoom graph q →
      q.trail.length < p.trail.length + room) :
    loopsFrom graph room p.trail p.node = unboundedLoopsFrom graph p.trail p.node := by
  induction room generalizing p with
  | zero =>
    have stops : ¬ AsksForRoom graph p := fun asks =>
      Nat.lt_irrefl _ (ample p List.mem_cons_self asks)
    rw [loopsFrom_zero, unboundedLoopsFrom_eq, nextPositions_eq_nil stops, List.flatMap_nil,
      List.append_nil]
  | succ room ih =>
    rw [loopsFrom_succ, unboundedLoopsFrom_eq]
    congr 1
    refine List.flatMap_congr fun q follows => ih fun r member asks => ?_
    have short := ample r (List.mem_cons_of_mem _ (List.mem_flatMap.2 ⟨q, follows, member⟩)) asks
    rw [(mem_nextPositions_iff.1 follows).trail_eq, List.length_cons]
    omega

/-- **A limit that cuts off no call** has no part in what is found. -/
theorem findLoopsWithin_eq_findLoopsUnbounded {limit : Nat}
    (uncut : ∀ p ∈ positionsWithin limit graph, ¬ CutOff graph limit p) :
    findLoopsWithin limit graph = findLoopsUnbounded graph := by
  rw [findLoopsWithin, findLoopsUnbounded]
  congr 1
  refine List.flatMap_congr fun node start => ?_
  refine loopsFrom_eq_unboundedLoopsFrom (p := ⟨[], node⟩) fun q member asks => ?_
  have called : q ∈ positionsWithin limit graph := List.mem_flatMap.2 ⟨node, start, member⟩
  have short : ¬ limit < q.trail.length := fun full => uncut q called ⟨asks, full⟩
  rw [List.length_nil]
  omega

/-! ### No room is ever missing -/

/-- **A limit from one less than the number of groups on cuts off no call.** -/
theorem not_cutOff (wf : graph.WellFormed) {limit : Nat} (enough : graph.groupCount ≤ limit + 1)
    {p : Position} (member : p ∈ positionsWithin limit graph) : ¬ CutOff graph limit p := by
  intro cut
  have short := cut.toAsksForRoom.length_trail_lt (walked_of_mem_positionsWithin wf member)
  have full := cut.full
  omega

/-- The limit of the loop search has no part in what it finds. -/
structure RoomSuffices (graph : Graph) : Prop where
  /-- Whatever the limit, what the search finds is what is closed at its calls. -/
  found : ∀ limit, findLoopsWithin limit graph =
    firstBy (·.canonical) ((positionsWithin limit graph).filterMap (·.loop?))
  /-- At every call the groups on the trail are distinct. -/
  distinct : ∀ limit, ∀ p ∈ positionsWithin limit graph, (p.trail.map (·.group)).Nodup
  /-- They exist. -/
  exist : ∀ limit, ∀ p ∈ positionsWithin limit graph, ∀ name ∈ p.trail.map (·.group),
    graph.contains name = true
  /-- Where room is asked for, they are fewer than the groups of the story. -/
  fewer : ∀ limit, ∀ p ∈ positionsWithin limit graph, AsksForRoom graph p →
    p.trail.length < graph.groupCount
  /-- No call is cut off by a limit from one less than the number of groups on. -/
  uncut : ∀ limit, graph.groupCount ≤ limit + 1 →
    ∀ p ∈ positionsWithin limit graph, ¬ CutOff graph limit p
  /-- Without a limit the search does not go on for ever either. -/
  ends : WellFounded fun q p => Advances graph p q
  /-- It finds the same loops then, in the same order. -/
  unbounded : findLoops graph = findLoopsUnbounded graph
  /-- So it does with every limit from one less than the number of groups on. -/
  same : ∀ limit, graph.groupCount ≤ limit + 1 → findLoopsWithin limit graph = findLoops graph

/-- **The room of the loop search is never used up.**  Whatever was inserted, the groups on the trail are
distinct and exist at every call, so there are fewer of them than groups of the story where room is asked
for, and no call is cut off.  The search ends without a limit, and it finds the same list of loops without
one and with every limit from one less than the number of groups on. -/
theorem roomSuffices_ofInsertions (history : List Graph.Insertion) :
    RoomSuffices (Graph.ofInsertions history) := by
  have wf := Graph.wellFormed_ofInsertions history
  have unlimited : ∀ limit, (Graph.ofInsertions history).groupCount ≤ limit + 1 →
      findLoopsWithin limit (.ofInsertions history) = findLoopsUnbounded (.ofInsertions history) :=
    fun _ enough => findLoopsWithin_eq_findLoopsUnbounded fun _ => not_cutOff wf enough
  have unbounded : findLoops (.ofInsertions history) = findLoopsUnbounded (.ofInsertions history) := by
    refine unlimited _ ?_
    rw [loopDepthFactor]
    omega
  exact {
    found := fun limit => findLoopsWithin_eq limit _
    distinct := fun _ _ member => (walked_of_mem_positionsWithin wf member).distinct
    exist := fun _ _ member _ onTrail =>
      (walked_of_mem_positionsWithin wf member).contains_of_mem_trail onTrail
    fewer := fun _ _ member asks => asks.length_trail_lt (walked_of_mem_positionsWithin wf member)
    uncut := fun _ enough _ => not_cutOff wf enough
    ends := wellFounded_advances _
    unbounded := unbounded
    same := fun limit enough => (unlimited limit enough).trans unbounded.symm }

/-- Three rooms round which a reader walks. -/
def roundOfThree : List Graph.Insertion :=
  [{ node := { sourceId := "1", group := "attic", choices := .ofList [("On", "bower")] }
     said := { start? := some true } },
   { node := { sourceId := "2", group := "bower", choices := .ofList [("On", "cellar")] } },
   { node := { sourceId := "3", group := "cellar", choices := .ofList [("On", "attic")] } }]

/-- One less than the number of groups is enough, and two less is not. -/
theorem roomSuffices_roundOfThree :
    findLoopsWithin 2 (.ofInsertions roundOfThree) = findLoops (.ofInsertions roundOfThree) ∧
      (findLoopsUnbounded (.ofInsertions roundOfThree)).map (·.canonical) =
        [["attic", "bower", "cellar", "attic"]] ∧
      findLoopsWithin 1 (.ofInsertions roundOfThree) = [] := by
  have ample := roomSuffices_ofInsertions roundOfThree
  refine ⟨ample.same 2 (by decide +kernel), ?_, by decide +kernel⟩
  rw [← ample.unbounded]
  decide +kernel

end Gamebook.Analysis
