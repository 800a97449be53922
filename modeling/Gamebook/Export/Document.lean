import Gamebook.Json.Printer
import Gamebook.Story.Graph

/-!
# The story document

The compiled story is one object with a member for every group, in the order of the names.  A group
tells whether the story starts or ends there and whether it may be entered again, and then its variants
in order.  A variant tells its choices by label, its text, and those style values that are not empty.
-/

namespace Gamebook.Export

open Gamebook.Json Gamebook.Story

/-- The name of the member for a concern. -/
def concernKey : Concern → String
  | .pace => "pace"
  | .colour => "colour"
  | .effect => "effect"
  | .pointOfView => "pov"
  | .message => "messagepov"
  | .messageTitle => "messagetitle"

/-- The members for the style values that are not empty. -/
def styleMembers (style : Style) : List (String × Value) :=
  Concern.all.filterMap fun concern =>
    (style.declared? concern).map fun value => (concernKey concern, .string value)

/-- The value of a variant. -/
def variantValue (node : Node) : Value :=
  .object (("choices", .stringObject node.choices.entries) :: ("text", .string node.text)
    :: styleMembers node.style)

/-- The value of a group. -/
def groupValue (group : Group) : Value :=
  .object [("start", .boolean group.isStart), ("end", .boolean group.isEnding),
    ("revisit", .boolean group.revisit), ("variants", .array (group.variants.map variantValue))]

/-- The value of a story. -/
def document (graph : Graph) : Value :=
  .object (graph.groups.map fun group => (group.name, groupValue group))

/-- The text of the story document. -/
def renderDocument (graph : Graph) : String := Json.render (document graph)

end Gamebook.Export
