import Gamebook.Proofs.Marker.Patterns
import Gamebook.Proofs.Marker.Words

/-!
# Values in metadata

What may be declared for a concern is said by the vocabulary alone (`Declarable`): one of its words, to
the letter, or a value of the form that the concern has besides words.  Rules that were made from the
vocabulary accept these values and no others, and so does the anchored pattern
(`declared_values_exact`).

## The end of a value

No value ends with a line feed.  Words and values of a form do not end with any blank, and a name or a
title has no line feed at all.
-/

namespace Gamebook.Marker

open Gamebook.Story (Concern)

/-- The value may be declared for the concern in a story with the vocabulary. -/
def Declarable (vocabulary : Vocabulary) : Concern → (value : List Char) → Prop
  | .pace, value => vocabulary.Names .pace (String.ofList value) ∨ IsDuration value
  | .colour, value =>
    vocabulary.Names .colour (String.ofList value) ∨ IsHexColour 3 value ∨ IsHexColour 6 value
  | .effect, value => vocabulary.Names .effect (String.ofList value)
  | .pointOfView, value => IsName value
  | .message, value => IsName value
  | .messageTitle, value => value ≠ [] ∧ '/' ∉ value ∧ '\n' ∉ value

/-! ### The end of a value -/

theorem Vocabulary.Names.endsBare {vocabulary : Vocabulary} {concern : Concern} {value : List Char}
    (names : vocabulary.Names concern (String.ofList value)) : Text.EndsBare value := by
  have bare := names.bare.ending
  rwa [String.toList_ofList] at bare

/-- No value ends with a line feed. -/
theorem Declarable.getLast?_ne {vocabulary : Vocabulary} {concern : Concern} {value : List Char}
    (declarable : Declarable vocabulary concern value) : value.getLast? ≠ some '\n' := by
  have ends_bare : Text.EndsBare value → value.getLast? ≠ some '\n' :=
    fun bare last => absurd (bare _ last) (by decide)
  cases concern with
  | pace =>
    rcases declarable with names | duration
    · exact ends_bare names.endsBare
    · exact ends_bare duration.endsBare
  | colour =>
    rcases declarable with names | three | six
    · exact ends_bare names.endsBare
    · exact ends_bare three.endsBare
    · exact ends_bare six.endsBare
  | effect => exact ends_bare (Vocabulary.Names.endsBare declarable)
  | pointOfView => exact ends_bare (IsName.endsBare declarable)
  | message => exact ends_bare (IsName.endsBare declarable)
  | messageTitle => exact fun last => declarable.2.2 (List.mem_of_getLast? last)

/-! ### Accepted values -/

section Made

variable {vocabulary : Vocabulary} {thresholds : Thresholds} {rules : Rules}

theorem all_isTitleChar_iff {value : List Char} :
    (∀ c ∈ value, isTitleChar c = true) ↔ '/' ∉ value ∧ '\n' ∉ value := by
  simp only [isTitleChar, Bool.and_eq_true, bne_iff_ne, forall_and]
  have free_iff : ∀ d, (∀ c ∈ value, c ≠ d) ↔ d ∉ value := fun d =>
    ⟨fun other member => other d member rfl, fun free _ member same => free (same ▸ member)⟩
  exact and_congr (free_iff '/') (free_iff '\n')

theorem contains_iff_names (made : Rules.ofVocabulary vocabulary thresholds = .ok rules)
    (concern : Concern) {lexicon : Lexicon} (same : lexicon.words = rules.wordsFor concern)
    {value : List Char} :
    lexicon.contains value = true ↔ vocabulary.Names concern (String.ofList value) := by
  rw [Lexicon.contains_iff, same, ← mem_wordsFor_iff made]
  constructor
  · rintro ⟨word, member, rfl⟩
    rwa [String.ofList_toList]
  · intro member
    exact ⟨_, member, String.toList_ofList⟩

/-- **Rules accept** what may be declared. -/
theorem accepts_iff_declarable (made : Rules.ofVocabulary vocabulary thresholds = .ok rules)
    {concern : Concern} {value : List Char} :
    rules.accepts concern value = true ↔ Declarable vocabulary concern value := by
  cases concern with
  | pace =>
    rw [Rules.accepts, Bool.or_eq_true, contains_iff_names made .pace rfl, accepts_duration?_iff,
      Declarable]
  | colour =>
    rw [Rules.accepts, Bool.or_eq_true, contains_iff_names made .colour rfl, accepts_hexColour?_iff,
      Declarable]
    exact or_congr_right or_comm
  | effect => exact contains_iff_names made .effect rfl
  | pointOfView => exact isEmpty_and_all_iff
  | message => exact isEmpty_and_all_iff
  | messageTitle => rw [Rules.accepts, isEmpty_and_all_iff, all_isTitleChar_iff, Declarable]

/-- **Declared values.**  Rules made from a vocabulary accept a text exactly when it is a value that may
be declared, and this is when the anchored pattern stands in it.  A line feed after a value is not
overlooked. -/
theorem declared_values_exact (made : Rules.ofVocabulary vocabulary thresholds = .ok rules)
    (concern : Concern) (value : List Char) :
    (rules.accepts concern value = true ↔ Declarable vocabulary concern value) ∧
      ((rules.declaredPattern concern).throughout.OccursIn value ↔
        Declarable vocabulary concern value) ∧
      rules.accepts concern (value ++ ['\n']) = false := by
  refine ⟨accepts_iff_declarable made,
    occursIn_declaredPattern_iff.trans (accepts_iff_declarable made), Bool.eq_false_iff.2 ?_⟩
  intro accepted
  exact ((accepts_iff_declarable made).1 accepted).getLast?_ne (by simp)

theorem dot_declared_literally :
    Rules.ofVocabulary stemsAndDots {} = .ok stemsAndDotsRules ∧
      Declarable stemsAndDots .pace "a.b".toList ∧ ¬ Declarable stemsAndDots .pace "axb".toList ∧
      (stemsAndDotsRules.declaredPattern .colour).throughout.OccursIn "#FF00ff".toList ∧
      ¬ (stemsAndDotsRules.declaredPattern .colour).throughout.OccursIn "Teal".toList ∧
      stemsAndDotsRules.accepts .colour "teal\n".toList = false := by
  have made := ofVocabulary_stemsAndDots
  obtain ⟨dot, -⟩ := declared_values_exact made .pace "a.b".toList
  obtain ⟨letter, -⟩ := declared_values_exact made .pace "axb".toList
  obtain ⟨digits, digits', -⟩ := declared_values_exact made .colour "#FF00ff".toList
  obtain ⟨capital, capital', -⟩ := declared_values_exact made .colour "Teal".toList
  obtain ⟨-, -, feed⟩ := declared_values_exact made .colour "teal".toList
  refine ⟨made, dot.1 (by decide +kernel), fun declarable => ?_, digits'.2 (digits.1 (by decide +kernel)),
    fun occurs => ?_, feed⟩
  · exact absurd (letter.2 declarable) (by decide +kernel)
  · exact absurd (capital.2 (capital'.1 occurs)) (by decide +kernel)

end Made

end Gamebook.Marker
