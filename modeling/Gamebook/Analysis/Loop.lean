import Gamebook.Analysis.Cycle
import Gamebook.Analysis.Distinct
import Gamebook.Story.Graph

/-!
# Loops

A reader who comes back to a group has walked a loop.  The search walks every route from every start
variant, keeping the variants it came through; where the group of the next variant is already among
them, the part of the route since then is a loop, and the route ends there.  It also ends at an ending
and where no choice leads on.

A group that must not be entered again is not walked into a second time.  Whether it is entered again
is decided when the choice is made, before the variant that offers the choice counts as walked
through: a passage may therefore lead straight back to itself whatever it says about being entered
again.

Since a route ends at the first repetition, the groups on it are distinct, and no route is longer than
the number of groups.  The bound on the length that the search carries never cuts off anything; it is
what the recursion is on.
-/

namespace Gamebook.Analysis

open Gamebook.Story

/-! ### Loops along a route -/

/-- A closed walk through the story. -/
structure Loop where
  /-- The variants of the walk from the first group of the canonical form on; the last repeats the
  first. -/
  nodes : List Node
  /-- The canonical form of the cycle of group names. -/
  canonical : List String
  deriving DecidableEq

/-- The loop along a route whose last variant is in the group of an earlier one, from the first such
variant on.  `before` are the variants before the last. -/
def Loop.closing? (before : List Node) (last : Node) : Option Loop :=
  match before.dropWhile fun node => node.group ≠ last.group with
  | [] => none
  | body =>
    let names := body.map (·.group)
    some ⟨closed (rotated body (leastRotation names)), canonicalCycle names⟩

/-- The loop that the last variant of a route closes. -/
def Loop.ofRoute? (route : List Node) : Option Loop :=
  match route.reverse with
  | [] => none
  | last :: before => Loop.closing? before.reverse last

@[simp] theorem Loop.ofRoute?_nil : Loop.ofRoute? [] = none := rfl

/-- The source ids along a loop. -/
def Loop.sourceIds (found : Loop) : List String := found.nodes.map (·.sourceId)

/-! ### The search -/

/-- The group is among those of the variants walked through. -/
def walkedThrough (trail : List Node) (name : String) : Bool := trail.any fun node => node.group == name

/-- The groups that the search goes on to from a variant: those its choices name that may be entered
again or have not been walked through. -/
def continuations (graph : Graph) (trail : List Node) (node : Node) : List Group :=
  (graph.successors node).filter fun group => group.revisit || !walkedThrough trail group.name

/-- The loops that the routes from a variant close, in the order in which they are walked.  `trail`
holds the variants walked through, the latest first, and `room` says how many more there may be. -/
def loopsFrom (graph : Graph) : (room : Nat) → (trail : List Node) → Node → List Loop
  | room, trail, node =>
    if walkedThrough trail node.group then (Loop.closing? trail.reverse node).toList
    else
      match graph.find? node.group, room with
      | none, _ => []
      | some _, 0 => []
      | some group, room + 1 =>
        if group.isEnding then []
        else
          (continuations graph trail node).flatMap fun next =>
            next.variants.flatMap fun variant => loopsFrom graph room (node :: trail) variant

/-- The distinct loops of the routes from the start groups along which at most `limit` variants have
been walked through when the last one is entered, in the order of their discovery. -/
def findLoopsWithin (limit : Nat) (graph : Graph) : List Loop :=
  firstBy (·.canonical) (graph.startNodes.flatMap fun node => loopsFrom graph (limit + 1) [] node)

/-- The longest route the loop search walks, as a multiple of the number of groups. -/
def loopDepthFactor : Nat := 2

/-- The distinct loops that a reader may walk, in the order of their discovery. -/
def findLoops (graph : Graph) : List Loop := findLoopsWithin (loopDepthFactor * graph.groupCount) graph

end Gamebook.Analysis
