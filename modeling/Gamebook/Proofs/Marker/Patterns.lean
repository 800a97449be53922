import Gamebook.Marker.Usage
import Gamebook.Proofs.Marker.Forms
import Gamebook.Proofs.Text.Pattern

/-!
# The patterns of a concern

Rules can be given by two patterns for each concern: one for the values that may be declared, and one for
the markers in the prose, whose group is the value.  A pattern for words lists them in the order in which
they are tried.  This file says that the rules do what their patterns say: they find the markers that the
one finds (`matchesIn_markerPattern`), and the texts in which the other stands are known by its language
(`occursIn_declaredPattern_iff`).

## Where preference matters

It matters among words, of which one may begin with another, and for a colour in digits, of which three
are found within six.  It matters for a name, which ends where no further character can be taken.
A duration leaves no choice, whatever its parts prefer.
-/

namespace Gamebook.Marker

open Gamebook.Story (Concern)
open Gamebook.Text (Pattern)

/-! ### Patterns -/

/-- One of the words, preferably one in front. -/
def oneOf : List String → Pattern
  | [] => .one fun _ => false
  | [word] => .literal word.toList
  | word :: next :: rest => .either (.literal word.toList) (oneOf (next :: rest))

/-- Decimal digits, perhaps a blank, and the unit. -/
def durationPattern : Pattern :=
  .both (.many Text.isDecimalDigit) (.both (.maybe (.one Text.isBlank)) (.literal ['m', 's']))

/-- A hash sign and hexadecimal digits, preferably six and otherwise three. -/
def hexColourPattern : Pattern :=
  .both (.literal ['#']) (.either ((Pattern.one (Numeral.isDigit 16)).copies 6)
    ((Pattern.one (Numeral.isDigit 16)).copies 3))

/-- The values that may be declared for a concern. -/
def Rules.declaredPattern (rules : Rules) : Concern → Pattern
  | .pace => .either (oneOf rules.speeds.words) durationPattern
  | .colour => .either (oneOf rules.colours.words) hexColourPattern
  | .effect => oneOf rules.effects.words
  | .pointOfView => .many isNameChar
  | .message => .many isNameChar
  | .messageTitle => .many isTitleChar

/-- The values that markers of a concern may have. -/
def Rules.valuePattern (rules : Rules) : Concern → Pattern
  | .pace => .either (oneOf rules.speeds.words) (.both (.literal "speed ".toList) durationPattern)
  | .colour => .either (oneOf rules.colours.words) (.both (.literal "colour ".toList) hexColourPattern)
  | .effect => oneOf rules.effects.words
  | .pointOfView => .many isNameChar
  | .message => .many isNameChar
  | .messageTitle => .many (· != '/')

/-- The markers of a concern.  The value is the group. -/
def Rules.markerPattern (rules : Rules) (concern : Concern) : Pattern :=
  let value := .group (rules.valuePattern concern)
  match concern with
  | .pace => .both (.literal ['/']) value
  | .colour => .both (.literal ['/']) value
  | .effect => .both (.literal ['/']) value
  | .pointOfView => .both (.literal "/pov ".toList) value
  | .message => .both (.literal "/message".toList)
      (.both (.maybe (.literal "-unsent".toList)) (.both (.literal [' ']) value))
  | .messageTitle => .both (.literal "/message-title ".toList) value

/-- A marker as a match of its pattern. -/
def Occurrence.toMatch (marker : Occurrence) : Pattern.Match := ⟨marker.whole, some marker.value⟩

/-! ### Words -/

theorem first?_literal_word (word : String) (before after : List Char) :
    (Pattern.literal word.toList).first? before after =
      ([word].find? fun word => word.toList.isPrefixOf after).map (⟨·.toList, none⟩) := by
  rw [Pattern.first?, Pattern.ways, List.find?_singleton]
  simp only [List.isPrefixOf_iff_prefix]
  split <;> rfl

/-- Of the words that come, the one in front is found. -/
theorem first?_oneOf (before after : List Char) :
    ∀ words : List String, (oneOf words).first? before after =
      (words.find? fun word => word.toList.isPrefixOf after).map (⟨·.toList, none⟩)
  | [] => by cases after <;> rfl
  | [word] => first?_literal_word word before after
  | word :: next :: rest => by
    rw [oneOf, Pattern.first?_either, first?_literal_word, first?_oneOf before after (next :: rest),
      ← Option.map_or, ← List.find?_append, List.singleton_append]

theorem spells_oneOf_iff {s : List Char} :
    ∀ {words : List String}, (oneOf words).Spells s ↔ ∃ word ∈ words, word.toList = s
  | [] => by simp [oneOf, Pattern.Spells]
  | [word] => by simp [oneOf, Pattern.Spells, eq_comm]
  | word :: next :: rest => by
    rw [oneOf, Pattern.Spells, spells_oneOf_iff, Pattern.Spells, eq_comm]
    exact (List.exists_mem_cons_iff (·.toList = s) word (next :: rest)).symm

theorem plain_oneOf : ∀ words : List String, (oneOf words).plain = true
  | [] => rfl
  | [_] => rfl
  | _ :: next :: rest => plain_oneOf (next :: rest)

/-! ### Forms -/

theorem spells_durationPattern_iff {s : List Char} : durationPattern.Spells s ↔ IsDuration s := by
  simp only [durationPattern, Pattern.Spells, IsDuration]
  constructor
  · rintro ⟨digits, _, rfl, ⟨given, all⟩, gap, _, rfl, gapped, rfl⟩
    refine ⟨digits, gap, rfl, given, all, ?_⟩
    rcases gapped with ⟨c, blank, rfl⟩ | rfl
    · exact ⟨Nat.le_refl _, List.forall_mem_singleton.2 blank⟩
    · exact ⟨Nat.zero_le _, List.forall_mem_nil _⟩
  · rintro ⟨digits, gap, rfl, given, all, short, blank⟩
    refine ⟨digits, _, rfl, ⟨given, all⟩, gap, _, rfl, ?_, rfl⟩
    rcases gap with _ | ⟨c, _ | ⟨d, gap⟩⟩
    · exact .inr rfl
    · exact .inl ⟨c, blank c List.mem_cons_self, rfl⟩
    · exact absurd short (by simp)

theorem spells_hexColourPattern_iff {s : List Char} :
    hexColourPattern.Spells s ↔ IsHexColour 6 s ∨ IsHexColour 3 s := by
  simp only [hexColourPattern, Pattern.Spells, Pattern.spells_copies_one_iff, IsHexColour]
  constructor
  · rintro ⟨_, digits, rfl, rfl, colour | colour⟩
    · exact .inl ⟨digits, rfl, colour⟩
    · exact .inr ⟨digits, rfl, colour⟩
  · rintro (⟨digits, rfl, colour⟩ | ⟨digits, rfl, colour⟩)
    · exact ⟨['#'], digits, rfl, rfl, .inl colour⟩
    · exact ⟨['#'], digits, rfl, rfl, .inr colour⟩

theorem first?_durationPattern (before after : List Char) :
    durationPattern.first? before after = (duration? after).map (⟨·, none⟩) := by
  refine Pattern.first?_eq_map rfl fun w => ?_
  rw [duration?_eq_some_iff, spells_durationPattern_iff]

theorem first?_hexDigits (n : Nat) (before after : List Char) :
    ((Pattern.one (Numeral.isDigit 16)).copies n).first? before after =
      (hexDigits? n after).map (⟨·, none⟩) := by
  refine Pattern.first?_eq_map (Pattern.plain_copies rfl n) fun w => ?_
  rw [hexDigits?_eq_some_iff, Pattern.spells_copies_one_iff]

/-- What is found after a text in front is found with it. -/
theorem first?_literal_both_eq_map {pattern : Pattern} {form : Form}
    (same : ∀ before after, pattern.first? before after = (form after).map (⟨·, none⟩))
    (lead before after : List Char) :
    (Pattern.both (.literal lead) pattern).first? before after =
      (introduced lead form after).map (⟨·, none⟩) := by
  rw [Pattern.first?_literal_both, introduced, Option.map_bind]
  congr 1
  funext rest
  rw [same, Function.comp_apply, Option.map_map, Option.map_map]
  rfl

/-- A colour in digits is its digits with a hash sign in front. -/
theorem hexColour?_eq_introduced (s : List Char) :
    hexColour? s = introduced ['#'] (fun digits => (hexDigits? 6 digits).or (hexDigits? 3 digits)) s := by
  rw [hexColour?.eq_def, introduced]
  split
  · next rest =>
    have leads : Text.following? ['#'] ('#' :: rest) = some rest := Text.following?_eq_some_iff.2 rfl
    rw [leads]
    rfl
  · next other =>
    have none : Text.following? ['#'] s = none :=
      Option.eq_none_iff_forall_ne_some.2 fun rest leads =>
        other rest (Text.following?_eq_some_iff.1 leads)
    rw [none]
    rfl

theorem first?_hexColourPattern (before after : List Char) :
    hexColourPattern.first? before after = (hexColour? after).map (⟨·, none⟩) := by
  rw [hexColour?_eq_introduced]
  refine first?_literal_both_eq_map (fun before after => ?_) ['#'] before after
  rw [Pattern.first?_either, first?_hexDigits, first?_hexDigits, Option.map_or]

theorem first?_many (inClass : Char → Bool) (before after : List Char) :
    (Pattern.many inClass).first? before after = (run? inClass after).map (⟨·, none⟩) := by
  rw [Pattern.first?_many, run?]
  cases after.takeWhile inClass <;> rfl

/-! ### Markers -/

theorem first?_valuePattern (rules : Rules) (concern : Concern) (before after : List Char) :
    (rules.valuePattern concern).first? before after =
      (rules.value? concern after).map (⟨·, none⟩) := by
  have words : ∀ lexicon : Lexicon, ∀ before after, (oneOf lexicon.words).first? before after =
      (word? lexicon after).map (⟨·, none⟩) := by
    intro lexicon before after
    rw [first?_oneOf, word?, Option.map_map]
    rfl
  cases concern with
  | pace =>
    rw [Rules.valuePattern, Rules.value?, Pattern.first?_either, words,
      first?_literal_both_eq_map first?_durationPattern, Option.map_or]
  | colour =>
    rw [Rules.valuePattern, Rules.value?, Pattern.first?_either, words,
      first?_literal_both_eq_map first?_hexColourPattern, Option.map_or]
  | effect => exact words rules.effects before after
  | pointOfView => exact first?_many _ before after
  | message => exact first?_many _ before after
  | messageTitle => exact first?_many _ before after

/-- A value after its lead is a marker. -/
theorem first?_lead_group (rules : Rules) (concern : Concern) (lead before after : List Char) :
    (Pattern.both (.literal lead) (.group (rules.valuePattern concern))).first? before after =
      (rules.occurrenceAfter? concern after lead).map Occurrence.toMatch := by
  rw [Pattern.first?_literal_both, Rules.occurrenceAfter?, Option.map_bind]
  congr 1
  funext rest
  rw [Pattern.first?_group, first?_valuePattern, Function.comp_apply, Option.map_map, Option.map_map,
    Option.map_map]
  rfl

theorem occurrence?_eq_of_leads (rules : Rules) {concern : Concern} {lead : List Char}
    (only : leads concern = [lead]) (s : List Char) :
    rules.occurrence? concern s = rules.occurrenceAfter? concern s lead := by
  rw [Rules.occurrence?, only, List.findSome?_cons, List.findSome?_nil]
  cases rules.occurrenceAfter? concern s lead <;> rfl

/-- A lead may be found in two parts. -/
theorem occurrenceAfter?_append (rules : Rules) (concern : Concern) (s lead more : List Char) :
    rules.occurrenceAfter? concern s (lead ++ more) =
      (Text.following? lead s).bind fun rest =>
        (rules.occurrenceAfter? concern rest more).map fun found =>
          ⟨lead ++ found.whole, found.value⟩ := by
  rw [Rules.occurrenceAfter?, Text.following?_append, Option.bind_assoc]
  congr 1
  funext rest
  rw [Rules.occurrenceAfter?, Option.map_bind]
  congr 1
  funext rest
  rw [Function.comp_apply, Option.map_map]
  simp only [List.append_assoc]
  rfl

theorem first?_literal_both_lead {rules : Rules} {concern : Concern} {pattern : Pattern}
    {more : List Char}
    (same : ∀ before after, pattern.first? before after =
      (rules.occurrenceAfter? concern after more).map Occurrence.toMatch)
    (lead before after : List Char) :
    (Pattern.both (.literal lead) pattern).first? before after =
      (rules.occurrenceAfter? concern after (lead ++ more)).map Occurrence.toMatch := by
  rw [Pattern.first?_literal_both, occurrenceAfter?_append, Option.map_bind]
  congr 1
  funext rest
  rw [same, Function.comp_apply, Option.map_map, Option.map_map]
  rfl

/-- The two leads of a message are not both there, so it does not matter which is tried first. -/
theorem occurrence?_message (rules : Rules) (s : List Char) :
    rules.occurrence? .message s =
      (Text.following? "/message".toList s).bind fun rest =>
        ((rules.occurrenceAfter? .message rest "-unsent ".toList).or
          (rules.occurrenceAfter? .message rest [' '])).map
            fun found => ⟨"/message".toList ++ found.whole, found.value⟩ := by
  have split : leads .message =
      ["/message".toList ++ [' '], "/message".toList ++ "-unsent ".toList] := rfl
  rw [Rules.occurrence?, split, List.findSome?_cons, List.findSome?_cons, List.findSome?_nil,
    occurrenceAfter?_append, occurrenceAfter?_append]
  cases Text.following? "/message".toList s with
  | none => rfl
  | some rest =>
    rw [Option.bind_some, Option.bind_some, Option.bind_some]
    have missed : ∀ lead : List Char, Text.following? lead rest = none →
        rules.occurrenceAfter? .message rest lead = none := by
      intro lead none
      rw [Rules.occurrenceAfter?, none]
      rfl
    cases spaced : Text.following? [' '] rest with
    | none =>
      rw [missed _ spaced, Option.or_none, Option.map_none]
      cases rules.occurrenceAfter? .message rest "-unsent ".toList <;> rfl
    | some rest' =>
      obtain rfl : rest = ' ' :: rest' := Text.following?_eq_some_iff.1 spaced
      rw [missed "-unsent ".toList rfl, Option.none_or, Option.map_none]
      cases rules.occurrenceAfter? .message (' ' :: rest') [' '] <;> rfl

/-- **The markers that rules find at a place** are those that the pattern finds. -/
theorem first?_markerPattern (rules : Rules) (concern : Concern) (before after : List Char) :
    (rules.markerPattern concern).first? before after =
      (rules.occurrence? concern after).map Occurrence.toMatch := by
  cases concern with
  | pace =>
    rw [occurrence?_eq_of_leads rules rfl, ← first?_lead_group]
    rfl
  | colour =>
    rw [occurrence?_eq_of_leads rules rfl, ← first?_lead_group]
    rfl
  | effect =>
    rw [occurrence?_eq_of_leads rules rfl, ← first?_lead_group]
    rfl
  | pointOfView =>
    rw [occurrence?_eq_of_leads rules rfl, ← first?_lead_group]
    rfl
  | message =>
    have spaced := first?_lead_group rules .message [' ']
    rw [Rules.markerPattern, Pattern.first?_literal_both, occurrence?_message, Option.map_bind]
    congr 1
    funext rest
    rw [Pattern.first?_maybe_both, spaced, first?_literal_both_lead spaced, Function.comp_apply,
      ← Option.map_or, Option.map_map, Option.map_map]
    rfl
  | messageTitle =>
    rw [occurrence?_eq_of_leads rules rfl, ← first?_lead_group]
    rfl

theorem matchesFrom_eq_map {pattern : Pattern} {find? : List Char → Option Occurrence}
    (same : ∀ before after, pattern.first? before after = (find? after).map Occurrence.toMatch)
    (skip : Nat) (before after : List Char) :
    pattern.matchesFrom skip before after =
      (occurrencesFrom find? skip after).map Occurrence.toMatch := by
  induction after generalizing skip before with
  | nil => cases skip <;> rfl
  | cons c rest ih =>
    cases skip with
    | succ skip => exact ih skip _
    | zero =>
      rw [Pattern.matchesFrom, occurrencesFrom, same]
      cases find? (c :: rest) with
      | none => exact ih 0 _
      | some found => exact congrArg (found.toMatch :: ·) (ih _ _)

/-- **The markers that rules find in a text** are those that the pattern finds. -/
theorem matchesIn_markerPattern (rules : Rules) (concern : Concern) (s : List Char) :
    (rules.markerPattern concern).matchesIn s =
      (rules.occurrences concern s).map Occurrence.toMatch :=
  matchesFrom_eq_map (first?_markerPattern rules concern) 0 [] s

/-! ### Declared values -/

theorem Lexicon.contains_iff {lexicon : Lexicon} {s : List Char} :
    lexicon.contains s = true ↔ ∃ word ∈ lexicon.words, word.toList = s := by
  simp only [contains, List.any_eq_true, beq_iff_eq]

theorem isEmpty_and_all_iff {inClass : Char → Bool} {s : List Char} :
    (!s.isEmpty && s.all inClass) = true ↔ s ≠ [] ∧ ∀ c ∈ s, inClass c = true := by
  rw [Bool.and_eq_true, Bool.not_eq_true', List.isEmpty_eq_false_iff, List.all_eq_true]

theorem plain_declaredPattern (rules : Rules) (concern : Concern) :
    (rules.declaredPattern concern).plain = true := by
  have hexColours : hexColourPattern.plain = true := rfl
  have durations : durationPattern.plain = true := rfl
  cases concern <;> simp [Rules.declaredPattern, Pattern.plain, plain_oneOf, durations, hexColours]

/-- **The values that rules accept** are those that the pattern spells. -/
theorem accepts_iff_spells {rules : Rules} {concern : Concern} {s : List Char} :
    rules.accepts concern s = true ↔ (rules.declaredPattern concern).Spells s := by
  cases concern with
  | pace =>
    rw [Rules.accepts, Bool.or_eq_true, Lexicon.contains_iff, accepts_duration?_iff,
      Rules.declaredPattern, Pattern.Spells, spells_oneOf_iff, spells_durationPattern_iff]
  | colour =>
    rw [Rules.accepts, Bool.or_eq_true, Lexicon.contains_iff, accepts_hexColour?_iff,
      Rules.declaredPattern, Pattern.Spells, spells_oneOf_iff, spells_hexColourPattern_iff]
  | effect => rw [Rules.accepts, Lexicon.contains_iff, Rules.declaredPattern, spells_oneOf_iff]
  | pointOfView => exact isEmpty_and_all_iff
  | message => exact isEmpty_and_all_iff
  | messageTitle => exact isEmpty_and_all_iff

/-- **A value is accepted** exactly when the pattern, anchored at both ends, stands in it. -/
theorem occursIn_declaredPattern_iff {rules : Rules} {concern : Concern} {s : List Char} :
    (rules.declaredPattern concern).throughout.OccursIn s ↔ rules.accepts concern s = true :=
  (Pattern.occursIn_throughout_iff (plain_declaredPattern rules concern)).trans
    accepts_iff_spells.symm

end Gamebook.Marker
