import Gamebook.Proofs.Analysis.Playthrough

/-!
# Walking from variant to variant

The search for playthroughs goes from group to group and takes each group once.  A walker goes from variant
to variant instead.  It enters every variant of every group that a choice leads to, as often as choices lead
there, and it remembers the ways it went, so as not to go on from the same groups a second time
(`Walker.enter`).  Both find the same playthroughs in the same order, and give up equally often
(`walkStory_eq`).

## What the walker remembers

A way is remembered when the walker first goes it, as the names of the groups on it.  What is remembered
while the walker goes on from there are ways that continue it.  So a way that is new to the walker is the
beginning of none that it remembers (`Fresh`), and this carries the induction: the first variant of a group
makes the walker find what the search finds below the group, and the other variants, whose way is the same,
make it find nothing (`entered`).

Without room the walker remembers nothing, and every variant that it would enter is counted.
-/

namespace Gamebook.Analysis

open Gamebook.Story

/-! ### The walker -/

/-- What a walker has found so far. -/
structure Walker where
  /-- The ways that it went, each as the names of its groups. -/
  gone : List (List String) := []
  /-- The routes that came to an end, and how often it gave up. -/
  search : PlaythroughSearch := {}

namespace Walker

/-- The walker remembers a way. -/
def remember (walker : Walker) (way : List String) : Walker :=
  { walker with gone := way :: walker.gone }

/-- The walker records a route, the latest variant first. -/
def record (walker : Walker) (route : List Node) : Walker :=
  { walker with search.playthroughs := walker.search.playthroughs ++ [⟨route.reverse⟩] }

/-- The walker does not enter some variants because its route is too long. -/
def giveUp (walker : Walker) (count : Nat) : Walker :=
  { walker with search.cutoffs := walker.search.cutoffs + count }

/-- The walker enters a variant.  `before` holds the variants walked through, the latest first, and `room`
says how many more may be entered. -/
def enter (graph : Graph) : (room : Nat) → (before : List Node) → Node → Walker → Walker
  | 0, _, _, walker => walker.giveUp 1
  | room + 1, before, node, walker =>
    let route := node :: before
    let way := (route.map (·.group)).reverse
    if way ∈ walker.gone then walker
    else
      let walker := walker.remember way
      match graph.find? node.group with
      | none => walker
      | some group =>
        if group.isEnding || !leadsOn graph group then walker.record route
        else
          group.variants.foldl (fun walker variant =>
            variant.targets.foldl (fun walker target =>
              match graph.find? target with
              | none => walker
              | some next =>
                if !next.revisit && route.any fun node => node.group == next.name then walker
                else
                  next.variants.foldl (fun walker variant => enter graph room route variant walker)
                    walker) walker) walker

/-- The walker enters all variants of a group, one after the other. -/
def enterAll (graph : Graph) (room : Nat) (before : List Node) (walker : Walker)
    (group : Group) : Walker :=
  group.variants.foldl (fun walker variant => walker.enter graph room before variant) walker

end Walker

/-- What a walker finds that begins with each start variant in turn. -/
def walkStory (graph : Graph) : PlaythroughSearch :=
  (graph.startNodes.foldl (fun walker node =>
    walker.enter graph (routeLengthFactor * graph.groupCount + 1) [] node) ({} : Walker)).search

variable {graph : Graph} {room : Nat} {before : List Node} {walker : Walker} {group : Group}

/-! ### Entering a variant -/

/-- The choices of all variants lead to the groups that the search goes on to, repetitions included. -/
theorem foldl_choices (graph : Graph) (route : List Node) (group : Group) (walker : Walker)
    (enter : Walker → Node → Walker) :
    group.variants.foldl (fun walker variant =>
      variant.targets.foldl (fun walker target =>
        match graph.find? target with
        | none => walker
        | some next =>
          if !next.revisit && route.any fun node => node.group == next.name then walker
          else next.variants.foldl enter walker) walker) walker =
      (admissible graph route group).foldl (fun walker next => next.variants.foldl enter walker)
        walker := by
  rw [admissible, Group.targets, List.foldl_filter, List.foldl_filterMap, List.foldl_flatMap]
  congr 1
  funext walker variant
  congr 1
  funext walker target
  cases graph.find? target with
  | none => rfl
  | some next =>
    show (if _ then _ else _) = (if _ then _ else _)
    cases next.revisit <;> cases route.any fun node => node.group == next.name <;> rfl

/-- A way that was gone is not gone again. -/
theorem Walker.enter_of_mem {node : Node} (old : ((node :: before).map (·.group)).reverse ∈ walker.gone) :
    walker.enter graph (room + 1) before node = walker := by
  unfold enter
  exact if_pos old

/-- A way that is new is remembered, and then it is recorded or gone on from. -/
theorem Walker.enter_of_notMem {node : Node}
    (new : ((node :: before).map (·.group)).reverse ∉ walker.gone)
    (found : graph.find? node.group = some group) :
    walker.enter graph (room + 1) before node =
      if group.isEnding || !leadsOn graph group then
        (walker.remember ((node :: before).map (·.group)).reverse).record (node :: before)
      else
        (admissible graph (node :: before) group).foldl (Walker.enterAll graph room (node :: before))
          (walker.remember ((node :: before).map (·.group)).reverse) := by
  conv_lhs => unfold enter
  rw [if_neg new]
  simp only [found]
  split
  · rfl
  · exact foldl_choices graph (node :: before) group _ _

/-- Without room the walker gives up once for every variant. -/
theorem foldl_enterAll_zero (route : List Node) (nexts : List Group) (walker : Walker) :
    nexts.foldl (Walker.enterAll graph 0 route) walker =
      walker.giveUp (nexts.flatMap (·.variants)).length := by
  have counted : ∀ (nodes : List Node) (walker : Walker),
      nodes.foldl (fun walker node => walker.enter graph 0 route node) walker =
        walker.giveUp nodes.length := by
    intro nodes
    induction nodes with
    | nil => exact fun _ => rfl
    | cons node nodes ih =>
      intro walker
      rw [List.foldl_cons, ih, List.length_cons, Nat.add_comm nodes.length 1, Walker.giveUp,
        Walker.giveUp, ← Nat.add_assoc]
      rfl
  rw [← counted, List.foldl_flatMap]
  rfl

/-! ### What entering adds -/

/-- The way is the beginning of none that the walker remembers. -/
def Fresh (walker : Walker) (way : List String) : Prop := ∀ names ∈ walker.gone, ¬ way <+: names

/-- Some findings are added to those of the walker, and what it remembers more are ways that continue the
one that is given. -/
structure Adds (way : List String) (walker after : Walker) (found : PlaythroughSearch) : Prop where
  playthroughs : after.search.playthroughs = walker.search.playthroughs ++ found.playthroughs
  cutoffs : after.search.cutoffs = walker.search.cutoffs + found.cutoffs
  keeps : walker.gone ⊆ after.gone
  continues : ∀ names ∈ after.gone, names ∈ walker.gone ∨ way <+: names

theorem Adds.refl (way : List String) (walker : Walker) : Adds way walker walker {} where
  playthroughs := (List.append_nil _).symm
  cutoffs := rfl
  keeps := List.Subset.refl _
  continues _ member := .inl member

theorem Adds.record (way : List String) (walker : Walker) (route : List Node) :
    Adds way walker (walker.record route) { playthroughs := [⟨route.reverse⟩] } where
  playthroughs := rfl
  cutoffs := rfl
  keeps := List.Subset.refl _
  continues _ member := .inl member

theorem Adds.giveUp (way : List String) (walker : Walker) (count : Nat) :
    Adds way walker (walker.giveUp count) { cutoffs := count } where
  playthroughs := (List.append_nil _).symm
  cutoffs := rfl
  keeps := List.Subset.refl _
  continues _ member := .inl member

/-- What is found first comes first. -/
theorem Adds.cons {way way' : List String} {next after : Walker} {found : PlaythroughSearch}
    {more : List PlaythroughSearch} (adds : Adds way' walker next found)
    (adds' : Adds way next after (.join more)) (longer : way <+: way') :
    Adds way walker after (.join (found :: more)) where
  playthroughs := by
    rw [adds'.playthroughs, adds.playthroughs, List.append_assoc]
    rfl
  cutoffs := by
    rw [adds'.cutoffs, adds.cutoffs, Nat.add_assoc]
    rfl
  keeps := List.Subset.trans adds.keeps adds'.keeps
  continues names member := by
    rcases adds'.continues names member with member | begins
    · exact (adds.continues names member).imp id longer.trans
    · exact .inr begins

/-- Ways into different groups are not continued by the same ways. -/
theorem name_eq_of_both_begin {next next' : Group} {names : List String}
    (begins : wayTo before next <+: names) (begins' : wayTo before next' <+: names) :
    next.name = next'.name := by
  have long : (wayTo before next).length ≤ (wayTo before next').length := by simp [wayTo]
  have same : wayTo before next = wayTo before next' :=
    (List.prefix_of_prefix_length_le begins begins' long).eq_of_length (by simp [wayTo])
  simpa [wayTo] using same

theorem prefix_wayTo (before : List Node) (group : Group) :
    (before.map (·.group)).reverse <+: wayTo before group :=
  List.prefix_append _ _

/-- Entering the variants of a group has the walker find what the search finds below the group. -/
structure Entered (graph : Graph) (room : Nat) (before : List Node) (group : Group)
    (walker after : Walker) : Prop where
  adds : Adds (wayTo before group) walker after (continueInto graph room before group)
  remembered : wayTo before group ∈ after.gone

/-- The way into the group is remembered before anything else. -/
theorem Entered.of_remember {after : Walker}
    (adds : Adds (wayTo before group) (walker.remember (wayTo before group)) after
      (continueInto graph room before group)) : Entered graph room before group walker after where
  adds :=
    { playthroughs := adds.playthroughs
      cutoffs := adds.cutoffs
      keeps := List.Subset.trans (List.subset_cons_self _ _) adds.keeps
      continues := fun names member => by
        rcases adds.continues names member with member | begins
        · rcases List.mem_cons.1 member with rfl | member
          · exact .inr (List.prefix_refl _)
          · exact .inl member
        · exact .inr begins }
  remembered := adds.keeps List.mem_cons_self

/-- Variants of a group whose way was gone change nothing. -/
theorem foldl_enter_of_mem (old : wayTo before group ∈ walker.gone) {nodes : List Node}
    (own : ∀ node ∈ nodes, node.group = group.name) :
    nodes.foldl (fun walker node => walker.enter graph (room + 1) before node) walker = walker := by
  induction nodes with
  | nil => rfl
  | cons node nodes ih =>
    obtain ⟨here, more⟩ := List.forall_mem_cons.1 own
    have same : ((node :: before).map (·.group)).reverse = wayTo before group := by
      rw [List.map_cons, List.reverse_cons, here, wayTo]
    rw [List.foldl_cons, Walker.enter_of_mem (same ▸ old), ih more]

/-- **Several groups, one after the other.**  A group that comes again finds nothing, since the way into it
is remembered, and the other groups do not make the walker remember that way. -/
theorem adds_foldl_enterAll {nexts : List Group}
    (each : ∀ next ∈ nexts, ∀ walker, Fresh walker (wayTo before next) →
      Entered graph room before next walker (walker.enterAll graph (room + 1) before next))
    (own : ∀ next ∈ nexts, ∀ node ∈ next.variants, node.group = next.name)
    {seen : List String} {walker : Walker}
    (known : ∀ next ∈ nexts, next.name ∈ seen → wayTo before next ∈ walker.gone)
    (fresh : ∀ next ∈ nexts, next.name ∉ seen → Fresh walker (wayTo before next)) :
    Adds (before.map (·.group)).reverse walker
      (nexts.foldl (Walker.enterAll graph (room + 1) before) walker)
      (.join ((firstByFrom (·.name) seen nexts).map fun next =>
        continueInto graph room before next)) := by
  induction nexts generalizing seen walker with
  | nil => exact .refl _ _
  | cons next nexts ih =>
    obtain ⟨here, each⟩ := List.forall_mem_cons.1 each
    obtain ⟨ownHere, own⟩ := List.forall_mem_cons.1 own
    obtain ⟨knownHere, known⟩ := List.forall_mem_cons.1 known
    obtain ⟨freshHere, fresh⟩ := List.forall_mem_cons.1 fresh
    rw [List.foldl_cons, firstByFrom]
    by_cases old : next.name ∈ seen
    · have nothing : walker.enterAll graph (room + 1) before next = walker :=
        foldl_enter_of_mem (knownHere old) ownHere
      rw [if_pos old, nothing]
      exact ih each own known fresh
    · rw [if_neg old, List.map_cons]
      have entered := here walker (freshHere old)
      refine entered.adds.cons (ih each own ?_ ?_) (prefix_wayTo before next)
      · intro other member seen
        rcases List.mem_cons.1 seen with same | seen
        · have way : wayTo before other = wayTo before next := by rw [wayTo, wayTo, same]
          exact way ▸ entered.remembered
        · exact entered.adds.keeps (known other member seen)
      · intro other member unseen names gone begins
        rw [List.mem_cons, not_or] at unseen
        rcases entered.adds.continues names gone with gone | begins'
        · exact fresh other member unseen.2 names gone begins
        · exact unseen.1 (name_eq_of_both_begin begins begins')

/-- **The first variant does it all**, since it leaves the way remembered for the others. -/
theorem Entered.enterAll (wf : graph.WellFormed) {shown : Node} (stands : Stands graph before group)
    (first : group.variants.head? = some shown)
    (entered : Entered graph room before group walker (walker.enter graph (room + 1) before shown)) :
    Entered graph room before group walker (walker.enterAll graph (room + 1) before group) := by
  obtain ⟨more, variants⟩ := List.head?_eq_some_iff.1 first
  have own : ∀ node ∈ more, node.group = group.name := fun node member =>
    wf.group_eq stands.found (variants ▸ List.mem_cons_of_mem _ member)
  rw [Walker.enterAll, variants, List.foldl_cons, foldl_enter_of_mem entered.remembered own]
  exact entered

/-- A walker that enters the first variant of a group by a new way records it or goes on. -/
theorem enter_of_fresh (wf : graph.WellFormed) {shown : Node} (stands : Stands graph before group)
    (first : group.variants.head? = some shown) (fresh : Fresh walker (wayTo before group)) :
    walker.enter graph (room + 1) before shown =
      if group.isEnding || !leadsOn graph group then
        (walker.remember (wayTo before group)).record (shown :: before)
      else
        (admissible graph (shown :: before) group).foldl (Walker.enterAll graph room (shown :: before))
          (walker.remember (wayTo before group)) := by
  have here := wf.group_eq stands.found (List.mem_of_mem_head? first)
  have way : ((shown :: before).map (·.group)).reverse = wayTo before group := by
    rw [List.map_cons, List.reverse_cons, here, wayTo]
  have new : wayTo before group ∉ walker.gone := fun old => fresh _ old (List.prefix_refl _)
  rw [Walker.enter_of_notMem (way ▸ new) (here ▸ stands.found), way]

/-- **Entering a group by a new way** has the walker find what the search finds below the group. -/
theorem entered (wf : graph.WellFormed) (stands : Stands graph before group) :
    ∀ walker, Fresh walker (wayTo before group) →
      Entered graph room before group walker (walker.enterAll graph (room + 1) before group) := by
  induction room, before, group, stands using Stands.induction wf with
  | ends room before group stands shown first complete =>
    intro walker fresh
    refine .enterAll wf stands first (.of_remember ?_)
    rw [enter_of_fresh wf stands first fresh, if_pos ((complete_wayTo_iff stands.found).1 complete),
      continueInto_of_complete stands.found first complete]
    exact .record _ _ _
  | noRoom before group stands shown first incomplete =>
    intro walker fresh
    refine .enterAll wf stands first (.of_remember ?_)
    rw [enter_of_fresh wf stands first fresh,
      if_neg fun ends => incomplete ((complete_wayTo_iff stands.found).2 ends), foldl_enterAll_zero,
      continueInto_zero stands.found first incomplete]
    exact .giveUp _ _ _
  | goesOn room before group stands shown first incomplete ih =>
    intro walker fresh
    refine .enterAll wf stands first (.of_remember ?_)
    rw [enter_of_fresh wf stands first fresh,
      if_neg fun ends => incomplete ((complete_wayTo_iff stands.found).2 ends),
      continueInto_succ stands.found first incomplete]
    have here := wf.group_eq stands.found (List.mem_of_mem_head? first)
    have walked : ((shown :: before).map (·.group)).reverse = wayTo before group := by
      rw [List.map_cons, List.reverse_cons, here, wayTo]
    rw [← walked]
    refine adds_foldl_enterAll (fun next taken => ih next taken) ?_ ?_ ?_
    · exact fun next taken _ => wf.group_eq (find?_of_mem_admissible wf taken)
    · exact fun _ _ seen => absurd seen List.not_mem_nil
    · -- a way that goes on continues neither itself nor, being new, any other
      intro next taken _ names gone begins
      rw [wayTo_cons next here] at begins
      rcases List.mem_cons.1 gone with rfl | gone
      · have long := begins.length_le
        rw [walked, List.length_append, List.length_singleton] at long
        omega
      · exact fresh names gone ((List.prefix_append _ _).trans begins)

/-! ### The whole story -/

/-- **The walker finds the playthroughs of the search**, in the same order, and it gives up as often. -/
theorem walkStory_eq (wf : graph.WellFormed) : walkStory graph = searchPlaythroughs graph := by
  have stands := fun group (start : group ∈ graph.startGroups) => stands_of_mem_startGroups wf start
  have adds : Adds [] {}
      (graph.startGroups.foldl
        (Walker.enterAll graph (routeLengthFactor * graph.groupCount + 1) []) {})
      (.join ((firstBy (·.name) graph.startGroups).map fun next =>
        continueInto graph (routeLengthFactor * graph.groupCount) [] next)) := by
    refine adds_foldl_enterAll (fun group start => entered wf (stands group start)) ?_ ?_ ?_
    · exact fun group start _ => wf.group_eq (stands group start).found
    · exact fun _ _ seen => absurd seen List.not_mem_nil
    · exact fun _ _ _ _ gone => absurd gone List.not_mem_nil
  rw [firstBy_eq_self (pairwise_name_startGroups wf)] at adds
  rw [walkStory, Graph.startNodes, List.foldl_flatMap, searchPlaythroughs]
  show PlaythroughSearch.mk _ _ = PlaythroughSearch.mk _ _
  congr 1
  · exact adds.playthroughs
  · exact adds.cutoffs.trans (Nat.zero_add _)

theorem walkStory_ofInsertions (history : List Graph.Insertion) :
    walkStory (.ofInsertions history) = searchPlaythroughs (.ofInsertions history) :=
  walkStory_eq (Graph.wellFormed_ofInsertions history)

end Gamebook.Analysis
