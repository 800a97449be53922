import Gamebook.Analysis.Count
import Gamebook.Story.Graph

/-!
# Reach

The reader starts at a variant of a start group and follows choices until an ending.  Entering a group
may show any of its variants, so reaching a group reaches them all; nothing is read past an ending,
and a choice that names no group leads nowhere.

The search keeps the source ids it has been to and a stack of the variants still to look at, the next
one on top.  It looks at a variant once: every round either takes a variant off the stack for good or
goes to an id of the graph that it had not been to, and there are only so many of those.  That
measure needs the stack to hold variants of the graph, which is why the search carries the proof that
it does.
-/

namespace Gamebook.Analysis

open Gamebook.Story

/-- The number of variants of the graph whose source id has not been visited. -/
def unvisited (graph : Graph) (visited : List String) : Nat :=
  graph.nodes.countP fun node => node.sourceId ∉ visited

/-- Going to an id for the first time leaves fewer variants to go to. -/
theorem unvisited_lt {graph : Graph} {visited : List String} {node : Node}
    (member : node ∈ graph.nodes) (fresh : node.sourceId ∉ visited) :
    unvisited graph (node.sourceId :: visited) < unvisited graph visited := by
  refine countP_lt_of_imp (fun other h => ?_) member ?_ ?_
  · simp only [List.mem_cons, not_or, decide_eq_true_eq] at h ⊢
    exact h.2
  · simp
  · simp [fresh]

/-- The variants that follow a variant: those of every group its choices name, in reverse order, so
that the last one comes to lie on top of the stack; none after an ending. -/
def pushed (graph : Graph) (node : Node) : List Node :=
  if graph.isEnding node.group then []
  else ((graph.successors node).flatMap (·.variants)).reverse

theorem mem_nodes_of_mem_pushed {graph : Graph} {node next : Node}
    (member : next ∈ pushed graph node) : next ∈ graph.nodes := by
  rw [pushed] at member
  split at member
  · simp at member
  · obtain ⟨group, successor, member⟩ := List.mem_flatMap.1 (List.mem_reverse.1 member)
    obtain ⟨name, found⟩ := Graph.find?_of_mem_successors successor
    exact Graph.mem_nodes_of_find? found member

/-- The source ids visited from a stack of variants, the next one first. -/
def visitAll (graph : Graph) (visited : List String) (stack : List Node)
    (inGraph : ∀ node ∈ stack, node ∈ graph.nodes) : List String :=
  match stack with
  | [] => visited
  | node :: rest =>
    if node.sourceId ∈ visited then
      visitAll graph visited rest fun other member => inGraph other (List.mem_cons_of_mem _ member)
    else
      visitAll graph (node.sourceId :: visited) (pushed graph node ++ rest) fun other member =>
        (List.mem_append.1 member).elim mem_nodes_of_mem_pushed fun member =>
          inGraph other (List.mem_cons_of_mem _ member)
termination_by (unvisited graph visited, stack.length)
decreasing_by
  · exact Prod.Lex.right _ (Nat.lt_succ_self _)
  · next fresh => exact Prod.Lex.left _ _ (unvisited_lt (inGraph node List.mem_cons_self) fresh)

/-- The source ids that a reader may come to. -/
def reachedIds (graph : Graph) : List String :=
  visitAll graph [] graph.startNodes.reverse fun _ member =>
    Graph.mem_nodes_of_mem_startNodes (List.mem_reverse.1 member)

/-- The variants that no reader comes to, in the order of the graph. -/
def unreachable (graph : Graph) : List Node :=
  graph.nodes.filter fun node => node.sourceId ∉ reachedIds graph

end Gamebook.Analysis
