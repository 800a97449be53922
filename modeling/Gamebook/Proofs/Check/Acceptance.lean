import Gamebook.Check.Run
import Gamebook.Proofs.Analysis.Reach
import Gamebook.Proofs.Analysis.Trap

/-!
# What an accepted story promises

A report accepts a story when no required check is flagged (`accepted_run_iff`).  What that says about
the story is a matter of what the checks look for, and no check looks for the property that a reader
cares about: that whatever is chosen, an ending stays in reach.

It follows from five of the checks together.  There is a start; every group is reached; a group that does
not end the story offers a choice, which leads to a group that exists; and no loop is inescapable.  The
fourth of these is only a warning, so a report that accepts a story does not promise it, and it has to be
asked for.

## Why every group must allow to be entered again

The loop search does not go back to a group that forbids it, so a trap whose only entry forbids it is
not found.
-/

namespace Gamebook.Check

open Gamebook.Analysis Gamebook.Story

variable {context : Context} {entries : List Entry}

/-! ### Accepted reports -/

theorem Entry.status_evaluate_eq_fail_iff {entry : Entry} :
    (entry.evaluate context).status = .fail ↔
      entry.severity = .required ∧ entry.flagged (entry.probe.offenders context) = true := by
  cases h : entry.severity with
  | required => cases hf : entry.flagged (entry.probe.offenders context) <;>
      simp [Entry.evaluate, Entry.statusOf, h, hf]
  | warning => cases hf : entry.flagged (entry.probe.offenders context) <;>
      simp [Entry.evaluate, Entry.statusOf, h, hf]
  | off => simp [Entry.evaluate, Entry.statusOf, h]

/-- **A story is accepted when no required check is flagged.** -/
theorem accepted_run_iff :
    (run context entries).accepted = true ↔
      ∀ entry ∈ entries, entry.severity = .required →
        entry.flagged (entry.probe.offenders context) = false := by
  rw [run, Report.accepted_ofOutcomes, beq_iff_eq, countStatus, List.countP_eq_zero]
  constructor
  · intro none entry member required
    have passed := none _ (List.mem_map_of_mem member)
    rw [beq_iff_eq, Entry.status_evaluate_eq_fail_iff] at passed
    exact Bool.eq_false_iff.2 fun flagged => passed ⟨required, flagged⟩
  · intro unflagged outcome made
    obtain ⟨entry, member, rfl⟩ := List.mem_map.1 made
    rw [beq_iff_eq, Entry.status_evaluate_eq_fail_iff]
    rintro ⟨required, flagged⟩
    rw [unflagged entry member required] at flagged
    exact absurd flagged (by decide)

/-- A story is accepted when the two searches find nothing and no other required check is flagged. -/
theorem accepted_of_searches (reached : unreachable context.graph = [])
    (free : (classifyLoops context.graph).inescapable = [])
    (others : ∀ entry ∈ catalogue, entry.severity = .required →
      ¬ (entry.probe = .unreachable ∨ entry.probe = .inescapableLoops) →
        entry.flagged (entry.probe.offenders context) = false) :
    (run context catalogue).accepted = true := by
  have searches : ∀ entry ∈ catalogue, entry.probe = .unreachable ∨ entry.probe = .inescapableLoops →
      entry.flaggedByNone = false := by decide
  refine accepted_run_iff.2 fun entry member required => ?_
  by_cases search : entry.probe = .unreachable ∨ entry.probe = .inescapableLoops
  · have none : entry.probe.offenders context = [] := by
      rcases search with probe | probe
      · rw [probe, Probe.offenders, reached, List.map_nil]
      · rw [probe, Probe.offenders, free, List.map_nil]
    rw [none, Entry.flagged, searches entry member search]
    rfl
  · exact others entry member required search

/-- A check that rejects a story by what it finds has found nothing in one that is accepted. -/
theorem offenders_eq_nil_of_accepted (accepted : (run context entries).accepted = true)
    {name label : String} {probe : Probe} (member : .required name label probe ∈ entries) :
    probe.offenders context = [] := by
  have unflagged := accepted_run_iff.1 accepted _ member rfl
  rw [Entry.flagged] at unflagged
  show probe.offenders context = []
  cases found : probe.offenders context with
  | nil => rfl
  | cons offender rest =>
    simp [Entry.required, found] at unflagged

/-- A check that rejects a story by finding nothing has found something in one that is accepted. -/
theorem offenders_ne_nil_of_accepted (accepted : (run context entries).accepted = true)
    {name label : String} {probe : Probe} (member : .needed name label probe ∈ entries) :
    probe.offenders context ≠ [] := by
  have unflagged := accepted_run_iff.1 accepted _ member rfl
  intro none
  simp [Entry.flagged, Entry.needed, none] at unflagged

/-- The outcome of a check that is not switched off tells what the check found. -/
theorem offenders_evaluate {entry : Entry} (on : entry.severity ≠ .off) :
    (entry.evaluate context).offenders = entry.probe.offenders context := by
  rw [Entry.evaluate]
  cases h : entry.severity with
  | required => rfl
  | warning => rfl
  | off => exact absurd h on

/-! ### What single checks say about the graph -/

theorem exists_target {node : Node} (offers : node.hasChoices = true) :
    ∃ target, target ∈ node.targets := by
  rw [Node.hasChoices, Bool.not_eq_true', List.isEmpty_eq_false_iff] at offers
  obtain ⟨choice, member⟩ := List.exists_mem_of_ne_nil _ offers
  exact ⟨choice.2, List.mem_map_of_mem member⟩

/-- **Without dead ends and invalid links**, every group that does not end the story is linked to
another. -/
theorem leadsOn_of_no_faults {graph : Graph} (wf : graph.WellFormed)
    (choices : Fault.find graph .deadEnds = []) (links : Fault.find graph .invalidLinks = []) :
    LeadsOn graph := by
  intro name there goesOn
  obtain ⟨group, found⟩ := Graph.contains_iff.1 there
  obtain ⟨node, variant⟩ := List.exists_mem_of_ne_nil _ (wf.variants_ne_nil found)
  have member : group ∈ graph.groups := Graph.mem_groups_iff.2 ⟨name, found⟩
  rw [Graph.isEnding_of_find? found] at goesOn
  have offers : node.hasChoices = true := by
    by_contra silent
    have faulty : node ∈ Fault.find graph .deadEnds :=
      mem_variantsWhere.2 ⟨group, member, variant, by simp [goesOn, silent]⟩
    rw [choices] at faulty
    exact List.not_mem_nil faulty
  obtain ⟨target, isTarget⟩ := exists_target offers
  have there : graph.contains target = true := by
    by_contra missing
    have some : node.targets.any (fun target => !graph.contains target) = true :=
      List.any_eq_true.2 ⟨target, isTarget, by simp [missing]⟩
    have faulty : node ∈ Fault.find graph .invalidLinks :=
      mem_variantsWhere.2 ⟨group, member, variant, by simp [goesOn, some]⟩
    rw [links] at faulty
    exact List.not_mem_nil faulty
  exact ⟨target, there, group, found, node, variant, isTarget⟩

/-- An accepted story can start. -/
theorem exists_startsAt_of_accepted (accepted : (run context catalogue).accepted = true) :
    ∃ start, context.graph.startsAt start = true := by
  have starts := offenders_ne_nil_of_accepted accepted (by decide :
    .needed "starting_nodes" "at least one starting part" (.fault .startingNodes) ∈ catalogue)
  have found : Fault.find context.graph .startingNodes ≠ [] :=
    fun none => starts (List.map_eq_nil_iff.2 none)
  obtain ⟨node, member⟩ := List.exists_mem_of_ne_nil _ found
  obtain ⟨group, there, -, isStart⟩ := mem_variantsWhere.1 member
  obtain ⟨name, found⟩ := Graph.mem_groups_iff.1 there
  exact ⟨name, Graph.startsAt_iff.2 ⟨group, found, isStart⟩⟩

/-- **In an accepted story without invalid links**, every group that does not end it is linked to
another. -/
theorem leadsOn_of_accepted (wf : context.graph.WellFormed)
    (accepted : (run context catalogue).accepted = true)
    (linked : ∀ outcome ∈ (run context catalogue).checks,
      outcome.name = "invalid_links" → outcome.offenders = []) : LeadsOn context.graph := by
  have choices := offenders_eq_nil_of_accepted accepted (by decide :
    .required "dead_ends" "parts with no choices" (.fault .deadEnds) ∈ catalogue)
  have links := linked _ (List.mem_map_of_mem (by decide :
    .warning "invalid_links" "parts with missing or invalid links" (.fault .invalidLinks)
      ∈ catalogue)) rfl
  rw [offenders_evaluate (by decide)] at links
  exact leadsOn_of_no_faults wf (List.map_eq_nil_iff.1 choices) (List.map_eq_nil_iff.1 links)

/-- **In an accepted story every group is reached.** -/
theorem reached_of_accepted (wf : context.graph.WellFormed)
    (distinct : (context.graph.nodes.map (·.sourceId)).Nodup)
    (accepted : (run context catalogue).accepted = true) {name : String}
    (there : context.graph.contains name = true) : context.graph.Reached name := by
  have none : unreachable context.graph = [] :=
    List.map_eq_nil_iff.1 (offenders_eq_nil_of_accepted accepted (by decide :
      .required "unreachable_nodes" "parts that cannot be reached" .unreachable ∈ catalogue))
  obtain ⟨group, found⟩ := Graph.contains_iff.1 there
  obtain ⟨node, variant⟩ := List.exists_mem_of_ne_nil _ (wf.variants_ne_nil found)
  by_contra unreached
  rw [← wf.group_eq found variant] at unreached
  have member : node ∈ context.graph.nodes := Graph.mem_nodes_of_find? found variant
  have missed := (mem_unreachable_iff wf distinct).2 ⟨member, unreached⟩
  rw [none] at missed
  exact List.not_mem_nil missed

/-- An accepted story has no trap. -/
theorem inescapable_eq_nil_of_accepted (accepted : (run context catalogue).accepted = true) :
    (classifyLoops context.graph).inescapable = [] :=
  List.map_eq_nil_iff.1 (offenders_eq_nil_of_accepted accepted (by decide :
    .required "inescapable_loops" "parts with inescapable looping choices" .inescapableLoops
      ∈ catalogue))

/-! ### Accepted stories -/

/-- **An accepted story can be completed.**  In a story of which every document has an id of its own and
every group may be entered again, if the report accepts it and names no invalid link, then an ending can
be reached from every group, there is a playthrough, and every playthrough comes to an ending. -/
theorem completable_of_accepted (history : List Graph.Insertion) (rules : Marker.Rules)
    (deviation : Float) (report : Report) (distinct : (history.map (·.node.sourceId)).Nodup)
    (revisit : ∀ group ∈ (Graph.ofInsertions history).groups, group.revisit = true)
    (checked : checkStory ⟨.ofInsertions history, rules, deviation⟩ .empty = .ok report)
    (accepted : report.accepted = true)
    (linked : ∀ outcome ∈ report.checks, outcome.name = "invalid_links" → outcome.offenders = []) :
    (∀ group ∈ (Graph.ofInsertions history).groups,
        (Graph.ofInsertions history).CanEnd group.name) ∧
      (searchPlaythroughs (.ofInsertions history)).playthroughs ≠ [] ∧
      ∀ route ∈ (searchPlaythroughs (.ofInsertions history)).playthroughs,
        ∃ last, route.nodes.getLast? = some last ∧
          (Graph.ofInsertions history).isEnding last.group = true := by
  have wf := Graph.wellFormed_ofInsertions history
  have made : run ⟨.ofInsertions history, rules, deviation⟩ catalogue = report :=
    Except.ok.inj checked
  subst made
  have leadsOn : LeadsOn (.ofInsertions history) := leadsOn_of_accepted wf accepted linked
  have ids := Graph.nodup_sourceIds_of_history distinct
  have canEnd : ∀ name, (Graph.ofInsertions history).contains name = true →
      (Graph.ofInsertions history).CanEnd name := by
    refine canEnd_of_inescapable_eq_nil wf ?_ ?_ leadsOn (inescapable_eq_nil_of_accepted accepted)
    · intro name there
      obtain ⟨group, found⟩ := Graph.contains_iff.1 there
      rw [Graph.mayReturnTo_of_find? found]
      exact revisit group (Graph.mem_groups_iff.2 ⟨name, found⟩)
    · intro name there
      exact reached_of_accepted wf ids accepted there
  refine ⟨?_, ?_, fun route member => isEnding_of_mem_playthroughs wf leadsOn member⟩
  · intro group member
    obtain ⟨name, found⟩ := Graph.mem_groups_iff.1 member
    rw [wf.name_eq found]
    exact canEnd name (Graph.contains_of_find? found)
  · obtain ⟨start, starts⟩ := exists_startsAt_of_accepted accepted
    exact playthroughs_ne_nil wf starts (canEnd start (Graph.contains_of_startsAt starts))

/-- A gate from which one comes to a yard, from where one may go back or on to a keep. -/
def gateAndKeep : List Graph.Insertion :=
  [{ node := { sourceId := "1", group := "gate", text := "A gate.", choices := .ofList [("In", "yard")] }
     said := { start? := some true } },
   { node := { sourceId := "2", group := "yard", text := "A yard."
               choices := .ofList [("Back", "gate"), ("On", "keep")] } },
   { node := { sourceId := "3", group := "keep", text := "A keep." }, said := { ending? := some true } }]

/-- Rules with one word for each concern that needs words. -/
def plainRules : Marker.Rules where
  speeds := ⟨["slow"], by decide, List.pairwise_singleton _ _⟩
  colours := ⟨["red"], by decide, List.pairwise_singleton _ _⟩
  effects := ⟨["shake"], by decide, List.pairwise_singleton _ _⟩
  thresholds := {}

theorem unreachable_gateAndKeep : unreachable (.ofInsertions gateAndKeep) = [] := by
  have gate : (Graph.ofInsertions gateAndKeep).Reached "gate" := .start (by decide)
  have yard : (Graph.ofInsertions gateAndKeep).Reached "yard" := gate.next (by decide)
  have keep : (Graph.ofInsertions gateAndKeep).Reached "keep" := yard.next (by decide)
  have groups : ∀ node ∈ (Graph.ofInsertions gateAndKeep).nodes,
      node.group = "gate" ∨ node.group = "yard" ∨ node.group = "keep" := by decide
  refine unreachable_eq_nil (Graph.wellFormed_ofInsertions gateAndKeep) (by decide)
    fun node member => ?_
  rcases groups node member with same | same | same
  · exact same ▸ gate
  · exact same ▸ yard
  · exact same ▸ keep

theorem inescapable_gateAndKeep :
    (classifyLoops (.ofInsertions gateAndKeep)).inescapable = [] := by
  have loops : (findLoops (.ofInsertions gateAndKeep)).map (·.canonical) =
      [["gate", "yard", "gate"]] := by decide +kernel
  have yard : (Graph.ofInsertions gateAndKeep).CanEnd "yard" :=
    ⟨"keep", by decide, .single (by decide)⟩
  have none : (classifyLoops (.ofInsertions gateAndKeep)).inescapable.map (·.canonical) = [] := by
    refine List.eq_nil_iff_forall_not_mem.2 fun names member => ?_
    obtain ⟨found, trapped⟩ :=
      (mem_inescapable_iff (Graph.wellFormed_ofInsertions gateAndKeep)).1 member
    rw [loops, List.mem_singleton] at found
    exact trapped ⟨"yard", found ▸ by decide, yard⟩
  exact List.map_eq_nil_iff.1 none

theorem completable_gateAndKeep :
    (gateAndKeep.map (·.node.sourceId)).Nodup ∧
      (∀ group ∈ (Graph.ofInsertions gateAndKeep).groups, group.revisit = true) ∧
      (∃ report, checkStory ⟨.ofInsertions gateAndKeep, plainRules, 1.0⟩ .empty = .ok report ∧
        report.accepted = true ∧
        ∀ outcome ∈ report.checks, outcome.name = "invalid_links" → outcome.offenders = []) ∧
      (∀ group ∈ (Graph.ofInsertions gateAndKeep).groups,
        (Graph.ofInsertions gateAndKeep).CanEnd group.name) ∧
      (searchPlaythroughs (.ofInsertions gateAndKeep)).playthroughs ≠ [] ∧
      ∀ route ∈ (searchPlaythroughs (.ofInsertions gateAndKeep)).playthroughs,
        ∃ last, route.nodes.getLast? = some last ∧
          (Graph.ofInsertions gateAndKeep).isEnding last.group = true := by
  have distinct : (gateAndKeep.map (·.node.sourceId)).Nodup := by decide
  have revisit : ∀ group ∈ (Graph.ofInsertions gateAndKeep).groups, group.revisit = true := by decide
  have accepted : (run ⟨.ofInsertions gateAndKeep, plainRules, 1.0⟩ catalogue).accepted = true :=
    accepted_of_searches unreachable_gateAndKeep inescapable_gateAndKeep (by decide)
  have linked : ∀ outcome ∈ (run ⟨.ofInsertions gateAndKeep, plainRules, 1.0⟩ catalogue).checks,
      outcome.name = "invalid_links" → outcome.offenders = [] := by
    have links : ∀ entry ∈ catalogue, entry.name = "invalid_links" →
        entry.severity ≠ .off ∧
          entry.probe.offenders ⟨.ofInsertions gateAndKeep, plainRules, 1.0⟩ = [] := by decide
    intro outcome made named
    obtain ⟨entry, member, rfl⟩ := List.mem_map.1 made
    obtain ⟨on, none⟩ := links entry member named
    rw [offenders_evaluate on, none]
  exact ⟨distinct, revisit, ⟨_, rfl, accepted, linked⟩,
    completable_of_accepted gateAndKeep plainRules 1.0 _ distinct revisit rfl accepted linked⟩

end Gamebook.Check
