import Gamebook.Marker.Rules
import Gamebook.Proofs.Text.Trimming

/-!
# The words of a vocabulary

A vocabulary names words by lists of texts, in whatever order, with blanks around them, some of them
more than once and some of them blank.  Rules keep of such a list the words that it names and nothing
else (`mem_wordsFor_iff`), and there are rules exactly when every concern that needs words has one
(`exists_ofVocabulary_iff`).

## Why the first word is the longest

The words of a lexicon are tried in an order by length, but by that of their encodings.  Two words that
one text starts with are comparable: one continues the other, and what it has more makes it longer in
characters and in octets alike.  So the word that is tried first is the longest of them
(`leading?_eq_some_iff`).
-/

namespace Gamebook.Marker

open Gamebook.Story (Concern)

/-! ### Words and texts -/

/-- The concerns that have words. -/
def wordedConcerns : List Concern := [.pace, .colour, .effect]

theorem mem_wordedConcerns_iff {concern : Concern} :
    concern ∈ wordedConcerns ↔ concern = .pace ∨ concern = .colour ∨ concern = .effect := by
  simp only [wordedConcerns, List.mem_cons, List.not_mem_nil, or_false]

/-- The texts by which a vocabulary names the words of a concern. -/
def Vocabulary.textsFor (vocabulary : Vocabulary) : Concern → List String
  | .pace => vocabulary.speeds
  | .colour => vocabulary.colours
  | .effect => vocabulary.effects
  | .pointOfView => []
  | .message => []
  | .messageTitle => []

/-- The vocabulary has the word for the concern: the word is not empty, and one of the texts for the
concern is the word with blanks around it. -/
def Vocabulary.Names (vocabulary : Vocabulary) (concern : Concern) (word : String) : Prop :=
  word ≠ "" ∧ ∃ text ∈ vocabulary.textsFor concern, Text.trim text = word

instance (vocabulary : Vocabulary) (concern : Concern) (word : String) :
    Decidable (vocabulary.Names concern word) :=
  inferInstanceAs (Decidable (word ≠ "" ∧ ∃ text ∈ vocabulary.textsFor concern, Text.trim text = word))

/-- A word neither starts nor ends with a blank. -/
theorem Vocabulary.Names.bare {vocabulary : Vocabulary} {concern : Concern} {word : String}
    (names : vocabulary.Names concern word) : Text.Bare word.toList := by
  obtain ⟨-, text, -, rfl⟩ := names
  rw [Text.trim, String.toList_ofList]
  exact Text.bare_trimmed _

theorem Vocabulary.Names.toList_ne_nil {vocabulary : Vocabulary} {concern : Concern} {word : String}
    (names : vocabulary.Names concern word) : word.toList ≠ [] :=
  fun none => names.1 (String.toList_eq_nil_iff.1 none)

theorem mem_wordsOf_iff {texts : List String} {word : String} :
    word ∈ wordsOf texts ↔ word ≠ "" ∧ ∃ text ∈ texts, Text.trim text = word := by
  rw [wordsOf, mem_foldr_insertWord, List.mem_filter, List.mem_map, and_comm, Bool.not_eq_true',
    ← Bool.not_eq_true, String.isEmpty_iff]

/-! ### The words of rules -/

/-- The words of a concern. -/
def Rules.wordsFor (rules : Rules) : Concern → List String
  | .pace => rules.speeds.words
  | .colour => rules.colours.words
  | .effect => rules.effects.words
  | .pointOfView => []
  | .message => []
  | .messageTitle => []

theorem lexiconFor_eq_ok_iff {concern : Concern} {texts : List String} {lexicon : Lexicon} :
    lexiconFor concern texts = .ok lexicon ↔ lexicon.words = wordsOf texts := by
  rw [lexiconFor, Lexicon.ofTexts?]
  split
  · next found =>
    split at found
    · cases found
    · obtain ⟨words, _, _⟩ := lexicon
      cases found
      rw [Except.ok.injEq, Lexicon.mk.injEq, eq_comm]
  · next none =>
    split at none
    · next empty =>
      refine ⟨fun made => (by cases made), fun same => ?_⟩
      exact absurd (same.trans empty) lexicon.ne_nil
    · cases none

/-- **The rules of a vocabulary** have its words and nothing else. -/
theorem ofVocabulary_eq_ok_iff {vocabulary : Vocabulary} {thresholds : Thresholds} {rules : Rules} :
    Rules.ofVocabulary vocabulary thresholds = .ok rules ↔
      (∀ concern, rules.wordsFor concern = wordsOf (vocabulary.textsFor concern)) ∧
        rules.thresholds = thresholds := by
  constructor
  · intro made
    rw [Rules.ofVocabulary] at made
    cases paces : lexiconFor .pace vocabulary.speeds with
    | error _ => rw [paces] at made; cases made
    | ok speeds =>
      cases hues : lexiconFor .colour vocabulary.colours with
      | error _ => rw [paces, hues] at made; cases made
      | ok colours =>
        cases moves : lexiconFor .effect vocabulary.effects with
        | error _ => rw [paces, hues, moves] at made; cases made
        | ok effects =>
          rw [paces, hues, moves] at made
          cases made
          refine ⟨fun concern => ?_, rfl⟩
          cases concern with
          | pace => exact lexiconFor_eq_ok_iff.1 paces
          | colour => exact lexiconFor_eq_ok_iff.1 hues
          | effect => exact lexiconFor_eq_ok_iff.1 moves
          | pointOfView => rfl
          | message => rfl
          | messageTitle => rfl
  · rintro ⟨words, rfl⟩
    have paces : lexiconFor .pace vocabulary.speeds = .ok rules.speeds :=
      lexiconFor_eq_ok_iff.2 (words .pace)
    have hues : lexiconFor .colour vocabulary.colours = .ok rules.colours :=
      lexiconFor_eq_ok_iff.2 (words .colour)
    have moves : lexiconFor .effect vocabulary.effects = .ok rules.effects :=
      lexiconFor_eq_ok_iff.2 (words .effect)
    rw [Rules.ofVocabulary, paces, hues, moves]
    rfl

section Made

variable {vocabulary : Vocabulary} {thresholds : Thresholds} {rules : Rules}

theorem mem_wordsFor_iff (made : Rules.ofVocabulary vocabulary thresholds = .ok rules)
    {concern : Concern} {word : String} :
    word ∈ rules.wordsFor concern ↔ vocabulary.Names concern word := by
  rw [(ofVocabulary_eq_ok_iff.1 made).1 concern, mem_wordsOf_iff, Vocabulary.Names]

/-- **There are rules** exactly when each concern that has words has one. -/
theorem exists_ofVocabulary_iff :
    (∃ rules, Rules.ofVocabulary vocabulary thresholds = .ok rules) ↔
      ∀ concern ∈ wordedConcerns, ∃ word, vocabulary.Names concern word := by
  have given : ∀ texts : List String, wordsOf texts ≠ [] ↔
      ∃ word, word ≠ "" ∧ ∃ text ∈ texts, Text.trim text = word := by
    intro texts
    simp only [← mem_wordsOf_iff]
    exact ⟨List.exists_mem_of_ne_nil _, fun ⟨_, member⟩ => List.ne_nil_of_mem member⟩
  constructor
  · rintro ⟨rules, made⟩ concern worded
    have named := (ofVocabulary_eq_ok_iff.1 made).1 concern
    refine (given _).1 (named ▸ ?_)
    rcases mem_wordedConcerns_iff.1 worded with rfl | rfl | rfl
    · exact rules.speeds.ne_nil
    · exact rules.colours.ne_nil
    · exact rules.effects.ne_nil
  · intro named
    have words : ∀ concern ∈ wordedConcerns, wordsOf (vocabulary.textsFor concern) ≠ [] :=
      fun concern worded => (given _).2 (named concern worded)
    refine ⟨⟨⟨_, words .pace (by decide), pairwise_wordsOf _⟩,
      ⟨_, words .colour (by decide), pairwise_wordsOf _⟩,
      ⟨_, words .effect (by decide), pairwise_wordsOf _⟩, thresholds⟩, ?_⟩
    refine ofVocabulary_eq_ok_iff.2 ⟨fun concern => ?_, rfl⟩
    cases concern <;> rfl

end Made

/-- A vocabulary with a word that another one continues, with blanks around that, and with a dot in a
third. -/
def stemsAndDots : Vocabulary where
  speeds := ["fast", " faster ", "a.b", "fast"]
  colours := ["teal"]
  effects := ["shiver"]

/-- The rules of that vocabulary. -/
def stemsAndDotsRules : Rules where
  speeds := ⟨["faster", "fast", "a.b"], List.cons_ne_nil _ _,
    pairwise_wordsOf ["fast", " faster ", "a.b", "fast"]⟩
  colours := ⟨["teal"], List.cons_ne_nil _ _, List.pairwise_singleton _ _⟩
  effects := ⟨["shiver"], List.cons_ne_nil _ _, List.pairwise_singleton _ _⟩
  thresholds := {}

theorem ofVocabulary_stemsAndDots : Rules.ofVocabulary stemsAndDots {} = .ok stemsAndDotsRules :=
  ofVocabulary_eq_ok_iff.2 ⟨fun concern => by cases concern <;> decide, rfl⟩

/-! ### The word that is found -/

/-- Of two words that one text starts with, the one that is not longer in octets is not longer in
characters. -/
theorem length_le_of_utf8ByteSize_le {s : List Char} {a b : String} (leads : a.toList <+: s)
    (leads' : b.toList <+: s) (size : b.utf8ByteSize ≤ a.utf8ByteSize) :
    b.toList.length ≤ a.toList.length := by
  rcases List.prefix_or_prefix_of_prefix leads leads' with ⟨more, same⟩ | within
  · obtain rfl : b = a ++ String.ofList more := String.toList_injective (by simp [← same])
    rw [String.utf8ByteSize_append] at size
    have none : String.ofList more = "" := String.utf8ByteSize_eq_zero_iff.1 (by omega)
    rw [none, String.append_empty]
  · exact within.length_le

theorem Lexicon.longest_of_leading? {lexicon : Lexicon} {s : List Char} {word : String}
    (found : lexicon.leading? s = some word) :
    word ∈ lexicon.words ∧ word.toList <+: s ∧
      ∀ other ∈ lexicon.words, other.toList <+: s → other.toList.length ≤ word.toList.length := by
  obtain ⟨leads, front, back, split, passed⟩ := List.find?_eq_some_iff_append.1 found
  rw [List.isPrefixOf_iff_prefix] at leads
  refine ⟨split ▸ List.mem_append_right _ List.mem_cons_self, leads, fun other member leads' => ?_⟩
  have ordered := lexicon.ordered
  rw [split] at member ordered
  rcases List.mem_append.1 member with before | member
  · -- a word in front would have been taken
    have skipped := passed other before
    rw [List.isPrefixOf_iff_prefix.2 leads'] at skipped
    cases skipped
  · rcases List.mem_cons.1 member with rfl | behind
    · exact Nat.le_refl _
    · refine length_le_of_utf8ByteSize_le leads leads' ?_
      rcases (List.pairwise_cons.1 (List.pairwise_append.1 ordered).2.1).1 other behind with less | same
      · exact Nat.le_of_lt less
      · exact Nat.le_of_eq same.1

/-- **The word that is found** is the longest of those that the text starts with. -/
theorem Lexicon.leading?_eq_some_iff {lexicon : Lexicon} {s : List Char} {word : String} :
    lexicon.leading? s = some word ↔
      word ∈ lexicon.words ∧ word.toList <+: s ∧
        ∀ other ∈ lexicon.words, other.toList <+: s → other.toList.length ≤ word.toList.length := by
  refine ⟨longest_of_leading?, ?_⟩
  rintro ⟨member, leads, longest⟩
  cases found : lexicon.leading? s with
  | none =>
    have passed := List.find?_eq_none.1 found word member
    exact absurd (List.isPrefixOf_iff_prefix.2 leads) passed
  | some other =>
    obtain ⟨member', leads', longest'⟩ := longest_of_leading? found
    have long : other.toList.length = word.toList.length :=
      Nat.le_antisymm (longest other member' leads') (longest' word member leads)
    rw [String.toList_injective (List.prefix_iff_eq_take.1 leads' |>.trans
      (long ▸ (List.prefix_iff_eq_take.1 leads).symm))]

theorem Lexicon.leading?_eq_none_iff {lexicon : Lexicon} {s : List Char} :
    lexicon.leading? s = none ↔ ∀ word ∈ lexicon.words, ¬ word.toList <+: s := by
  simp only [leading?, List.find?_eq_none, List.isPrefixOf_iff_prefix]

end Gamebook.Marker
