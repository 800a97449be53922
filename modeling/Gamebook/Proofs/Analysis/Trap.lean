import Gamebook.Proofs.Analysis.Escape
import Gamebook.Proofs.Analysis.Playthrough

/-!
# A story without traps can be completed

Nothing in this library looks for the groups from which no ending is in reach.  What is looked for are
loops of such groups, and only those that the loop search comes to.  This file says when that is enough
(`canEnd_of_inescapable_eq_nil`): when every group may be entered again, is reached, and either ends the
story or is linked to another.

## Why a region without an ending holds a loop that is found

From a group that cannot end, choices lead to groups that cannot end either, and since every one of them
is linked to another, a reader there goes on for ever.  There are only so many groups, so the reader comes
back to one (`exists_closed_chain`), and that is a cycle of groups that cannot end.  Some of them are
reached.  The way there from a start may run along the cycle, but where it first comes to the cycle
it has not been on it, and this is what the loop search asks of a cycle that it reports.

## Why the playthroughs end

A way is complete at an ending or where no choice leads anywhere, and the latter does not happen where
every group that does not end the story is linked to another.  That there is a playthrough at all is
where the bound on their length comes in: a way to an ending without detours is short enough.
-/

namespace Gamebook.Analysis

open Gamebook.Story

variable {graph : Graph}

/-- Every group that does not end the story is linked to another. -/
def LeadsOn (graph : Graph) : Prop :=
  ∀ name, graph.contains name = true → graph.isEnding name = false → ∃ next, graph.Links name next

/-! ### Going on for ever -/

/-- A chain without repetition that can always be made longer comes back to itself.  The induction is on
how many groups are not on it. -/
theorem exists_closed_of_isChain {P : String → Prop}
    (exist : ∀ name, P name → graph.contains name = true)
    (onward : ∀ name, P name → ∃ next, P next ∧ graph.Links name next) :
    ∀ (left : Nat) (way : List String) (last : String), (way ++ [last]).IsChain graph.Links →
      (way ++ [last]).Nodup → (∀ name ∈ way ++ [last], P name) →
      graph.groupCount ≤ left + way.length →
      ∃ cycle : List String, cycle ≠ [] ∧ cycle.Nodup ∧ (closed cycle).IsChain graph.Links ∧
        ∀ name ∈ cycle, P name := by
  intro left
  induction left with
  | zero =>
    intro way last _ distinct all few
    have bound := Graph.length_le_groupCount distinct fun name member => exist name (all name member)
    rw [List.length_append, List.length_singleton] at bound
    omega
  | succ left ih =>
    intro way last chain distinct all few
    obtain ⟨next, here, links⟩ := onward last (all last List.mem_concat_self)
    by_cases again : next ∈ way ++ [last]
    · obtain ⟨before, rest, split⟩ := List.append_of_mem again
      have ends : (next :: rest).getLast? = some last := by
        have same := congrArg List.getLast? split
        rw [List.getLast?_concat, List.getLast?_append_of_ne_nil _ (List.cons_ne_nil _ _)] at same
        exact same.symm
      rw [split] at chain distinct all
      refine ⟨next :: rest, List.cons_ne_nil _ _, (List.nodup_append.1 distinct).2.1, ?_, ?_⟩
      · rw [closed, List.isChain_append, ends]
        refine ⟨chain.right_of_append, List.isChain_singleton _, ?_⟩
        rintro x ⟨⟩ y ⟨⟩
        exact links
      · exact fun name member => all name (List.mem_append_right _ member)
    · refine ih (way ++ [last]) next ?_ ?_ ?_ ?_
      · rw [List.isChain_append, List.getLast?_concat]
        refine ⟨chain, List.isChain_singleton _, ?_⟩
        rintro x ⟨⟩ y ⟨⟩
        exact links
      · exact List.nodup_append.2 ⟨distinct, List.nodup_singleton _, fun x old y new same =>
          again (List.mem_singleton.1 new ▸ same ▸ old)⟩
      · intro name member
        rcases List.mem_append.1 member with member | member
        · exact all name member
        · exact List.mem_singleton.1 member ▸ here
      · rw [List.length_append, List.length_singleton]
        omega

/-- **Where one can go on for ever there is a cycle.** -/
theorem exists_closed_chain {P : String → Prop} (exist : ∀ name, P name → graph.contains name = true)
    (onward : ∀ name, P name → ∃ next, P next ∧ graph.Links name next) {name : String}
    (here : P name) :
    ∃ cycle : List String, cycle ≠ [] ∧ cycle.Nodup ∧ (closed cycle).IsChain graph.Links ∧
      ∀ name ∈ cycle, P name := by
  refine exists_closed_of_isChain exist onward graph.groupCount [] name (List.isChain_singleton _)
    (List.nodup_singleton _) ?_ (Nat.le_refl _)
  intro other member
  rw [List.nil_append, List.mem_singleton] at member
  exact member ▸ here

/-! ### Traps -/

/-- A cycle of which some group is reached can be entered, if its groups may be. -/
theorem enterable_of_reached {cycle : List String} (nonempty : cycle ≠ []) (distinct : cycle.Nodup)
    (linked : (closed cycle).IsChain graph.Links)
    (goesOn : ∀ name ∈ cycle, graph.isEnding name = false)
    (back : ∀ name ∈ cycle, graph.mayReturnTo name = true) {name : String} (member : name ∈ cycle)
    (reached : graph.Reached name) : Enterable graph cycle where
  nonempty := nonempty
  distinct := distinct
  linked := linked
  goesOn := goesOn
  entered := by
    obtain ⟨start, starts, way⟩ := Graph.reached_iff.1 reached
    -- the cycle may be met before `name`, so the way is followed to where that happens first
    obtain ⟨entry, onCycle, -, outside⟩ := exists_first (P := fun x => x ∈ cycle) way member
    exact ⟨entry, onCycle, .inr (back entry onCycle), start, starts, outside⟩

/-- **No trap is missed**: where the search finds no inescapable loop, the story can end from
everywhere. -/
theorem canEnd_of_inescapable_eq_nil (wf : graph.WellFormed)
    (revisit : ∀ name, graph.contains name = true → graph.mayReturnTo name = true)
    (reached : ∀ name, graph.contains name = true → graph.Reached name) (leadsOn : LeadsOn graph)
    (escapable : (classifyLoops graph).inescapable = []) :
    ∀ name, graph.contains name = true → graph.CanEnd name := by
  intro name there
  by_contra stuck
  have goesOn : ∀ x, ¬ graph.CanEnd x → graph.isEnding x = false := by
    intro x stuck
    rw [Bool.eq_false_iff]
    exact fun ends => stuck ⟨x, ends, .refl⟩
  have onward : ∀ x, (graph.contains x = true ∧ ¬ graph.CanEnd x) →
      ∃ next, (graph.contains next = true ∧ ¬ graph.CanEnd next) ∧ graph.Links x next := by
    rintro x ⟨there, stuck⟩
    obtain ⟨next, links⟩ := leadsOn x there (goesOn x stuck)
    exact ⟨next, ⟨links.1, fun h => stuck (h.of_links links)⟩, links⟩
  obtain ⟨cycle, nonempty, distinct, linked, trapped⟩ :=
    exists_closed_chain (fun _ h => h.1) onward ⟨there, stuck⟩
  obtain ⟨first, member⟩ := List.exists_mem_of_ne_nil cycle nonempty
  have enterable : Enterable graph cycle :=
    enterable_of_reached nonempty distinct linked (fun x h => goesOn x (trapped x h).2)
      (fun x h => revisit x (trapped x h).1) member (reached first (trapped first member).1)
  have trap : canonicalCycle cycle ∈ (classifyLoops graph).inescapable.map (·.canonical) := by
    refine (mem_inescapable_iff wf).2 ⟨?_, ?_⟩
    · exact (mem_canonicals_findLoops_iff wf).2 ⟨cycle, enterable, rfl⟩
    · rintro ⟨x, onCycle, ends⟩
      exact (trapped x (mem_canonicalCycle.1 onCycle)).2 ends
  rw [escapable] at trap
  exact List.not_mem_nil trap

/-! ### Ends of playthroughs -/

/-- **There is a playthrough** where the story can end from a start. -/
theorem playthroughs_ne_nil (wf : graph.WellFormed) {start : String}
    (starts : graph.startsAt start = true) (ends : graph.CanEnd start) :
    (searchPlaythroughs graph).playthroughs ≠ [] := by
  obtain ⟨ending, isEnding, way⟩ := ends.exists_passes
  have reached : graph.Reached ending := (Graph.Reached.start starts).trans way
  obtain ⟨names, found⟩ := exists_playthrough_of_reached wf reached (.inl isEnding)
  intro none
  rw [none] at found
  exact List.not_mem_nil found

/-- **Every playthrough comes to an ending** where every group that does not end the story is linked to
another. -/
theorem isEnding_of_mem_playthroughs (wf : graph.WellFormed) (leadsOn : LeadsOn graph)
    {route : Playthrough} (member : route ∈ (searchPlaythroughs graph).playthroughs) :
    ∃ last, route.nodes.getLast? = some last ∧ graph.isEnding last.group = true := by
  obtain ⟨way, ⟨name, ends, complete⟩, -⟩ :=
    (mem_searchPlaythroughs_iff wf).1 (List.mem_map_of_mem member)
  have isEnding : graph.isEnding name = true := by
    rcases complete with isEnding | nowhere
    · exact isEnding
    · by_contra goesOn
      have there := way.contains (List.mem_of_getLast? ends)
      obtain ⟨next, links⟩ := leadsOn name there (Bool.eq_false_iff.2 goesOn)
      exact nowhere next links
  rw [Playthrough.groupNames, List.getLast?_map, Option.map_eq_some_iff] at ends
  obtain ⟨last, ends, rfl⟩ := ends
  exact ⟨last, ends, isEnding⟩

end Gamebook.Analysis
