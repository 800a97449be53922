import Gamebook.Marker.Form
import Gamebook.Marker.Lexicon
import Gamebook.Marker.Vocabulary
import Gamebook.Story.Style
import Gamebook.Text.WordChar

/-!
# Rules of style

What a story may say about each concern.  A pace, a colour and an effect are words of the story's
vocabulary; a pace may be a duration as well, and a colour may be given in digits.  A point of view and
the sender of a message are names, and a chat title is any text on one line without a slash.

The same values serve two uses.  In the metadata a value stands alone and is `accepted` as a whole.
In the prose a marker introduces it: a slash in front of a word, or the name of the concern.  Where a
word and a form of its own could both be read, the word is.

A concern that has words needs at least one, so that rules are made from a vocabulary by one function,
which names the first concern without words.
-/

namespace Gamebook.Marker

open Gamebook.Story (Concern)

/-! ### Limits -/

/-- How much of one marker is too much. -/
structure Thresholds where
  /-- The share of lines above which one pace, effect or point of view is overused. -/
  excessive : Float := 0.5
  /-- The share of lines above which one colour is overused. -/
  excessiveColour : Float := 0.25
  /-- A passage of at most so many lines overuses nothing. -/
  minLines : Nat := 4

/-! ### Making rules -/

/-- The rules of a story. -/
structure Rules where
  /-- The words for paces. -/
  speeds : Lexicon
  /-- The words for colours. -/
  colours : Lexicon
  /-- The words for effects. -/
  effects : Lexicon
  /-- The limits of use. -/
  thresholds : Thresholds

/-- A vocabulary has no word for a concern that needs words. -/
structure EmptyVocabulary where
  /-- The concern without words. -/
  concern : Concern
  deriving DecidableEq, Repr

/-- What is said of a vocabulary without words for a concern. -/
def EmptyVocabulary.message (error : EmptyVocabulary) : String :=
  error.concern.name ++ " vocabulary is empty"

/-- The words of a concern, which have to be there. -/
def lexiconFor (concern : Concern) (texts : List String) : Except EmptyVocabulary Lexicon :=
  match Lexicon.ofTexts? texts with
  | some lexicon => .ok lexicon
  | none => .error ⟨concern⟩

/-- The rules of a story with a vocabulary and limits. -/
def Rules.ofVocabulary (vocabulary : Vocabulary) (thresholds : Thresholds) :
    Except EmptyVocabulary Rules := do
  let speeds ← lexiconFor .pace vocabulary.speeds
  let colours ← lexiconFor .colour vocabulary.colours
  let effects ← lexiconFor .effect vocabulary.effects
  return ⟨speeds, colours, effects, thresholds⟩

/-! ### Values in metadata -/

/-- A character of a name. -/
def isNameChar (c : Char) : Bool := Text.isWordChar c

/-- A character of a title in the metadata. -/
def isTitleChar (c : Char) : Bool := c != '/' && c != '\n'

/-- The value may be declared for the concern. -/
def Rules.accepts (rules : Rules) : Concern → List Char → Bool
  | .pace, value => rules.speeds.contains value || Form.accepts duration? value
  | .colour, value => rules.colours.contains value || Form.accepts hexColour? value
  | .effect, value => rules.effects.contains value
  | .pointOfView, value => !value.isEmpty && value.all isNameChar
  | .message, value => !value.isEmpty && value.all isNameChar
  | .messageTitle, value => !value.isEmpty && value.all isTitleChar

/-! ### Values in the prose -/

/-- The longest word that a text starts with. -/
def word? (lexicon : Lexicon) : Form := fun s => (lexicon.leading? s).map (·.toList)

/-- What may stand in front of a value in the prose. -/
def leads : Concern → List (List Char)
  | .pace => [['/']]
  | .colour => [['/']]
  | .effect => [['/']]
  | .pointOfView => ["/pov ".toList]
  | .message => ["/message ".toList, "/message-unsent ".toList]
  | .messageTitle => ["/message-title ".toList]

/-- What is read as the value after the lead. -/
def Rules.value? (rules : Rules) : Concern → Form
  | .pace => fun s => (word? rules.speeds s).or (introduced "speed ".toList duration? s)
  | .colour => fun s => (word? rules.colours s).or (introduced "colour ".toList hexColour? s)
  | .effect => word? rules.effects
  | .pointOfView => run? isNameChar
  | .message => run? isNameChar
  | .messageTitle => run? (· != '/')

/-- A marker as it stands in a text. -/
structure Occurrence where
  /-- All of the marker. -/
  whole : List Char
  /-- The value that it switches to. -/
  value : List Char
  deriving DecidableEq, Repr

/-- The marker that a text starts with, if it has that lead. -/
def Rules.occurrenceAfter? (rules : Rules) (concern : Concern) (s lead : List Char) :
    Option Occurrence :=
  (Text.following? lead s).bind fun rest =>
    (rules.value? concern rest).map fun value => ⟨lead ++ value, value⟩

/-- The marker that a text starts with. -/
def Rules.occurrence? (rules : Rules) (concern : Concern) (s : List Char) : Option Occurrence :=
  (leads concern).findSome? (rules.occurrenceAfter? concern s)

/-! ### Limits of use -/

/-- A line may hold several markers of the concern. -/
def allowsSeveral (concern : Concern) : Bool := concern == .effect

/-- The share of lines above which one marker of the concern is overused, if there is a limit. -/
def Rules.limit? (rules : Rules) : Concern → Option Float
  | .colour => some rules.thresholds.excessiveColour
  | .pace => some rules.thresholds.excessive
  | .effect => some rules.thresholds.excessive
  | .pointOfView => some rules.thresholds.excessive
  | .message => none
  | .messageTitle => none

end Gamebook.Marker
