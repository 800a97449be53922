import Gamebook.Analysis.Count
import Gamebook.Analysis.Loop

/-!
# Escape from a loop

A loop is a trap if no ending can be reached from any of its groups.  Whether one can be reached is a
search over group names: from a group that does not end the story to every group that a choice of one
of its variants names.  It ends for the same reason as the search of the reachable variants, each
round leaving fewer names of the graph unvisited.
-/

namespace Gamebook.Analysis

open Gamebook.Story

/-- The number of group names that have not been visited. -/
def unvisitedNames (graph : Graph) (visited : List String) : Nat :=
  graph.table.names.countP fun name => name ∉ visited

/-- Going to a name for the first time leaves fewer names to go to. -/
theorem unvisitedNames_lt {graph : Graph} {visited : List String} {name : String}
    (member : name ∈ graph.table.names) (fresh : name ∉ visited) :
    unvisitedNames graph (name :: visited) < unvisitedNames graph visited := by
  refine countP_lt_of_imp (fun other h => ?_) member ?_ ?_
  · simp only [List.mem_cons, not_or, decide_eq_true_eq] at h ⊢
    exact h.2
  · simp
  · simp [fresh]

/-- The group names to go on to from a group: none from an ending. -/
def onward (group : Group) : List String := if group.isEnding then [] else group.targets

/-- The names of the groups visited from a stack of names, the next one first. -/
def visitGroups (graph : Graph) (visited : List String) : List String → List String
  | [] => visited
  | name :: rest =>
    match _found : graph.find? name with
    | none => visitGroups graph visited rest
    | some group =>
      if name ∈ visited then visitGroups graph visited rest
      else visitGroups graph (name :: visited) (onward group ++ rest)
termination_by stack => (unvisitedNames graph visited, stack.length)
decreasing_by
  · exact Prod.Lex.right _ (Nat.lt_succ_self _)
  · exact Prod.Lex.right _ (Nat.lt_succ_self _)
  · next fresh =>
    exact Prod.Lex.left _ _
      (unvisitedNames_lt (NameTable.mem_names_of_find?_eq_some _found) fresh)

section Rounds

variable {graph : Graph} {visited : List String} {name : String} {group : Group} (rest : List String)

/-- A name that no group has is passed over. -/
theorem visitGroups_of_missing (missing : graph.find? name = none) :
    visitGroups graph visited (name :: rest) = visitGroups graph visited rest := by
  rw [visitGroups]
  split
  · rfl
  · next found => exact absurd (missing.symm.trans found) nofun

/-- So is one that was visited. -/
theorem visitGroups_of_visited (old : name ∈ visited) :
    visitGroups graph visited (name :: rest) = visitGroups graph visited rest := by
  rw [visitGroups]
  split
  · rfl
  · exact if_pos old

/-- From a group that is new and no ending the search goes on to all that its choices name. -/
theorem visitGroups_of_goesOn (found : graph.find? name = some group) (fresh : name ∉ visited)
    (goesOn : ¬ group.isEnding = true) :
    visitGroups graph visited (name :: rest) =
      visitGroups graph (name :: visited) (group.targets ++ rest) := by
  rw [visitGroups]
  split
  · next missing => exact absurd (missing.symm.trans found) nofun
  · next found' =>
    obtain rfl := Option.some.inj (found.symm.trans found')
    rw [if_neg fresh, onward, if_neg goesOn]

end Rounds

/-- An ending can be reached from the group of that name. -/
def reachesEnding (graph : Graph) (name : String) : Bool :=
  (visitGroups graph [] [name]).any graph.isEnding

/-- An ending can be reached from some group of the loop. -/
def Loop.canEscape (graph : Graph) (found : Loop) : Bool :=
  found.nodes.any fun node => reachesEnding graph node.group

/-- The loops of a story, told apart by whether an ending can be reached. -/
structure LoopClasses where
  /-- The loops from which an ending can be reached. -/
  escapable : List Loop
  /-- The traps. -/
  inescapable : List Loop
  deriving DecidableEq

/-- The loops of the story by class, each class in the order of discovery. -/
def classifyLoops (graph : Graph) : LoopClasses :=
  let classes := (findLoops graph).partition (·.canEscape graph)
  ⟨classes.1, classes.2⟩

end Gamebook.Analysis
