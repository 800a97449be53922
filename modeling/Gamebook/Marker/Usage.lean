import Gamebook.Marker.Rules
import Gamebook.Story.Graph

/-!
# Use of markers

How the prose of a story uses its markers.  Markers are found from left to right, and the search goes
on after the marker just found, so that no two of them overlap.  Two things can be wrong with their use.
A marker belongs at the start of its line, and a line holds one, except for effects, of which it may
hold several.  And a long passage that repeats one marker on most of its lines should have declared it
in its metadata instead.
-/

namespace Gamebook.Marker

open Gamebook.Story

/-! ### Finding markers -/

/-- The markers that `find?` finds in a text after its first `skip` characters. -/
def occurrencesFrom (find? : List Char → Option Occurrence) : (skip : Nat) → List Char → List Occurrence
  | _, [] => []
  | skip + 1, _ :: rest => occurrencesFrom find? skip rest
  | 0, c :: rest =>
    match find? (c :: rest) with
    | some found => found :: occurrencesFrom find? (found.whole.length - 1) rest
    | none => occurrencesFrom find? 0 rest

@[simp] theorem occurrencesFrom_nil (find? : List Char → Option Occurrence) (skip : Nat) :
    occurrencesFrom find? skip [] = [] := by
  cases skip <;> rfl

/-- **What is skipped does not matter.** -/
theorem occurrencesFrom_eq_drop (find? : List Char → Option Occurrence) :
    ∀ (skip : Nat) (s : List Char),
      occurrencesFrom find? skip s = occurrencesFrom find? 0 (s.drop skip)
  | 0, s => rfl
  | skip + 1, [] => by simp
  | skip + 1, _ :: rest => occurrencesFrom_eq_drop find? skip rest

/-- The markers of a concern in a text, from left to right. -/
def Rules.occurrences (rules : Rules) (concern : Concern) (s : List Char) : List Occurrence :=
  occurrencesFrom (rules.occurrence? concern) 0 s

/-! ### Markers of a line -/

/-- The markers of a line stand where they belong, and there are not too many. -/
def Rules.lineValid (rules : Rules) (concern : Concern) (line : List Char) : Bool :=
  match (rules.occurrences concern line).length with
  | 0 => true
  | count => (allowsSeveral concern || count == 1) && line.head? == some '/'

/-- The markers of every line of a text are valid. -/
def Rules.linesValid (rules : Rules) (concern : Concern) (text : String) : Bool :=
  (Text.proseLines text).all (rules.lineValid concern)

/-! ### Overuse -/

/-- How often the most frequent of the values occurs. -/
def mostFrequent (values : List (List Char)) : Nat :=
  values.foldr (fun value most => max (values.count value) most) 0

/-- One marker of the concern occurs on too large a share of the lines of a text. -/
def Rules.overuses (rules : Rules) (concern : Concern) (text : String) : Bool :=
  match rules.limit? concern with
  | none => false
  | some limit =>
    let lineCount := (Text.proseLines text).length
    let mostUsed := mostFrequent ((rules.occurrences concern text.toList).map (·.value))
    rules.thresholds.minLines < lineCount && limit < Float.ofNat mostUsed / Float.ofNat lineCount

/-! ### Findings in a story -/

/-- The variants that declare a value which the concern does not accept. -/
def Rules.metadataViolations (rules : Rules) (graph : Graph) (concern : Concern) : List Node :=
  graph.nodes.filter fun node =>
    match node.style.declared? concern with
    | some value => !rules.accepts concern value.toList
    | none => false

/-- The variants with a line whose markers are not valid. -/
def Rules.lineViolations (rules : Rules) (graph : Graph) (concern : Concern) : List Node :=
  graph.nodes.filter fun node => !rules.linesValid concern node.text

/-- The variants that overuse a marker. -/
def Rules.overuse (rules : Rules) (graph : Graph) (concern : Concern) : List Node :=
  graph.nodes.filter fun node => rules.overuses concern node.text

end Gamebook.Marker
