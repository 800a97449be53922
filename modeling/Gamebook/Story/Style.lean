/-!
# Style

A passage of the story may be shown in a style of its own: at a pace, in a colour, with an effect,
from a point of view, as a message in someone's chat, under a chat title.  These are the six concerns.
A document declares them in its metadata for the whole passage, and its prose may switch them inline;
both uses are told apart by concern only, so that a statement about one concern is a statement about
all six.
-/

namespace Gamebook.Story

/-- A matter of style that a document may declare and its prose may switch. -/
inductive Concern where
  | pace
  | colour
  | effect
  | pointOfView
  | message
  | messageTitle
  deriving DecidableEq, Repr

namespace Concern

/-- The concerns in the order in which their rules are made. -/
def all : List Concern := [.pace, .colour, .effect, .pointOfView, .message, .messageTitle]

/-- The name of a concern in reports. -/
def name : Concern → String
  | .pace => "pace"
  | .colour => "colour"
  | .effect => "effect"
  | .pointOfView => "pov"
  | .message => "message"
  | .messageTitle => "message-title"

/-- The concern of that name. -/
def ofName? (name : String) : Option Concern := all.find? fun concern => concern.name == name

theorem mem_all (concern : Concern) : concern ∈ all := by
  cases concern <;> simp [all]

end Concern

/-- The style that a document declares, one optional value for each concern. -/
structure Style where
  /-- How fast the text appears. -/
  pace? : Option String := none
  /-- The colour of the text. -/
  colour? : Option String := none
  /-- How the text moves. -/
  effect? : Option String := none
  /-- Whose point of view the text takes. -/
  pointOfView? : Option String := none
  /-- Who sends the text as a message. -/
  message? : Option String := none
  /-- The title of the chat that the text belongs to. -/
  messageTitle? : Option String := none
  deriving DecidableEq, Repr, Inhabited

namespace Style

/-- The value for a concern as it was declared, possibly empty. -/
def get? (style : Style) : Concern → Option String
  | .pace => style.pace?
  | .colour => style.colour?
  | .effect => style.effect?
  | .pointOfView => style.pointOfView?
  | .message => style.message?
  | .messageTitle => style.messageTitle?

/-- The value for a concern, an empty one counting as not declared. -/
def declared? (style : Style) (concern : Concern) : Option String :=
  (style.get? concern).filter fun value => !value.isEmpty

/-- The style whose values are given concern by concern. -/
def ofConcerns (value? : Concern → Option String) : Style where
  pace? := value? .pace
  colour? := value? .colour
  effect? := value? .effect
  pointOfView? := value? .pointOfView
  message? := value? .message
  messageTitle? := value? .messageTitle

@[simp] theorem get?_ofConcerns (value? : Concern → Option String) (concern : Concern) :
    (ofConcerns value?).get? concern = value? concern := by
  cases concern <;> rfl

end Style

end Gamebook.Story
