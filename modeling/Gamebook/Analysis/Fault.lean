import Gamebook.Story.Graph
import Gamebook.Text.Blank

/-!
# Faults of single passages

What is wrong with a variant, or worth knowing about it, that can be seen from its own group: whether
it starts or ends the story, what its text is, where its choices lead.  Each kind is a condition on a
variant and its group; the two kinds about equal things, repeated text and repeated targets, look at
what else there is.  A kind lists the variants it applies to in the order of the graph.
-/

namespace Gamebook.Analysis

open Gamebook.Story

/-- A kind of finding about a single variant. -/
inductive Fault where
  | startingNodes
  | endingNodes
  | startEndNodes
  | emptyNodes
  | duplicateNodes
  | invalidLinks
  | deadEnds
  | continuingEnds
  | noncontinuingVariants
  | revisitVariants
  | singleChoice
  | duplicateChoices
  | divergentFlags
  deriving DecidableEq, Repr

/-- The variants that meet a condition on them and their group. -/
def variantsWhere (graph : Graph) (keep : Group → Node → Bool) : List Node :=
  graph.groups.flatMap fun group => group.variants.filter (keep group)

/-- **The variants that are kept are those of a group with which they meet the condition.** -/
theorem mem_variantsWhere {graph : Graph} {keep : Group → Node → Bool} {node : Node} :
    node ∈ variantsWhere graph keep
      ↔ ∃ group ∈ graph.groups, node ∈ group.variants ∧ keep group node = true := by
  rw [variantsWhere, List.mem_flatMap]
  constructor
  · intro h
    obtain ⟨group, member, kept⟩ := h
    exact ⟨group, member, List.mem_filter.1 kept⟩
  · intro h
    obtain ⟨group, member, kept⟩ := h
    exact ⟨group, member, List.mem_filter.2 kept⟩

/-- The variants whose text an earlier variant has as well; `seen` are the texts of earlier ones. -/
def repeatingText (seen : List String) : List Node → List Node
  | [] => []
  | node :: rest =>
    if node.text ∈ seen then node :: repeatingText seen rest
    else repeatingText (node.text :: seen) rest

/-- Two of the choices lead to groups of the same name. -/
def repeatsTarget (node : Node) : Bool := node.targets.eraseDups.length != node.targets.length

/-- A variant that must not be entered again, in a group with one that may. -/
def forbidsAmongAllowing (group : Group) (node : Node) : Bool :=
  !node.revisit group.revisitDefault
    && group.variants.any fun sibling => sibling.revisit group.revisitDefault

/-- The variants that a kind of finding applies to. -/
def Fault.find (graph : Graph) : Fault → List Node
  | .startingNodes => variantsWhere graph fun group _ => group.isStart
  | .endingNodes => variantsWhere graph fun group _ => group.isEnding
  | .startEndNodes => variantsWhere graph fun group _ => group.isStart && group.isEnding
  | .emptyNodes => variantsWhere graph fun _ node => Text.isBlankText node.text
  | .duplicateNodes => repeatingText [] graph.nodes
  | .invalidLinks => variantsWhere graph fun group node =>
      !group.isEnding && node.targets.any fun target => !graph.contains target
  | .deadEnds => variantsWhere graph fun group node => !group.isEnding && !node.hasChoices
  | .continuingEnds => variantsWhere graph fun group node => group.isEnding && node.hasChoices
  | .noncontinuingVariants => variantsWhere graph fun group node =>
      group.anyChoices && !node.hasChoices
  | .revisitVariants => variantsWhere graph forbidsAmongAllowing
  | .singleChoice => variantsWhere graph fun group node =>
      !group.isEnding && node.choices.size == 1
  | .duplicateChoices => variantsWhere graph fun group node =>
      !group.isEnding && repeatsTarget node
  | .divergentFlags => variantsWhere graph fun group _ => group.divergent

end Gamebook.Analysis
