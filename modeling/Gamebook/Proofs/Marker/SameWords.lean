import Gamebook.Marker.Usage
import Gamebook.Proofs.Marker.Words

/-!
# Vocabularies with the same words

A vocabulary is written down as lists of texts, and the same words can be written in many ways: in
another order, with other blanks around them, some of them twice, with blank texts in between.  This file
says that none of this is seen.  Two vocabularies with the same words make the same rules, or fail for the
same concern (`only_words_matter`).

## Why the order is lost

One way to make a lexicon is to sort the words and to drop of equal neighbours all but one.  That leaves
the same list for every way of writing the words because the order of words is strict and total: equal
words, and no others, are neighbours that neither precedes (`eraseReps_eq_wordsOf`).  The list is the one
list in that order with these words (`eq_of_pairwise_precedes`), and it is what a lexicon is made of.

## Failing

Rules are made concern by concern, so the concern that is named is the first without words, and not the
only one (`Vocabulary.Lacks`).
-/

namespace Gamebook.Marker

open Gamebook.Story (Concern Graph)

/-! ### Ordered words -/

theorem Precedes.asymm {a b : String} (before : Precedes a b) : ¬ Precedes b a := by
  rintro (longer | ⟨size, lt⟩)
  · rcases before with longer' | ⟨size', -⟩ <;> omega
  · rcases before with longer' | ⟨-, lt'⟩
    · omega
    · exact String.lt_asymm lt lt'

theorem nodup_of_pairwise_precedes {words : List String} (ordered : words.Pairwise Precedes) :
    words.Nodup := by
  refine ordered.imp ?_
  rintro a _ before rfl
  exact before.asymm before

/-- **There is one list in order** with given words. -/
theorem eq_of_pairwise_precedes {words others : List String} (ordered : words.Pairwise Precedes)
    (ordered' : others.Pairwise Precedes) (same : ∀ word, word ∈ words ↔ word ∈ others) :
    words = others := by
  have perm : words.Perm others :=
    (List.perm_ext_iff_of_nodup (nodup_of_pairwise_precedes ordered)
      (nodup_of_pairwise_precedes ordered')).2 same
  exact perm.eq_of_pairwise (fun _ _ _ _ before after => absurd after before.asymm) ordered ordered'

/-! ### Sorting and dropping equal neighbours -/

theorem eraseRepsBy_loop (a : String) (words kept : List String) :
    List.eraseRepsBy.loop (· == ·) a words kept =
      kept.reverse ++ List.eraseRepsBy.loop (· == ·) a words [] := by
  induction words generalizing a kept with
  | nil => simp [List.eraseRepsBy.loop]
  | cons b rest ih =>
    simp only [List.eraseRepsBy.loop]
    split
    · exact ih a kept
    · rw [ih b (a :: kept), ih b [a], List.reverse_cons, List.append_assoc]
      rfl

theorem eraseReps_cons_cons (a b : String) (rest : List String) :
    (a :: b :: rest).eraseReps =
      if a = b then (b :: rest).eraseReps else a :: (b :: rest).eraseReps := by
  simp only [List.eraseReps, List.eraseRepsBy, List.eraseRepsBy.loop]
  split
  · next same => rw [if_pos (eq_of_beq same), eq_of_beq same]
  · next differ =>
    rw [if_neg (ne_of_beq_false differ), eraseRepsBy_loop b rest [a]]
    rfl

theorem exists_eraseReps_cons (a : String) (rest : List String) :
    ∃ more, (a :: rest).eraseReps = a :: more := by
  induction rest generalizing a with
  | nil => exact ⟨[], rfl⟩
  | cons b rest ih =>
    rw [eraseReps_cons_cons]
    split
    · next same => exact same ▸ ih b
    · exact ⟨_, rfl⟩

/-- Of sorted words, those that are left when equal neighbours are dropped are the words put at their
places one by one. -/
theorem eraseReps_eq_foldr_insertWord {sorted : List String}
    (ordered : sorted.Pairwise fun a b => ¬ Precedes b a) :
    sorted.eraseReps = sorted.foldr insertWord [] := by
  induction sorted with
  | nil => rfl
  | cons a rest ih =>
    obtain ⟨first, later⟩ := List.pairwise_cons.1 ordered
    cases rest with
    | nil => rfl
    | cons b rest =>
      obtain ⟨more, left⟩ := exists_eraseReps_cons b rest
      rw [eraseReps_cons_cons, List.foldr_cons, ← ih later, left, insertWord]
      by_cases same : a = b
      · rw [if_pos same, if_pos same]
      · have before : Precedes a b :=
          (precedes_or_precedes same).resolve_right (first b List.mem_cons_self)
        rw [if_neg same, if_neg same, if_pos before]

/-- **However the words are sorted**, dropping equal neighbours leaves the words of the lexicon. -/
theorem eraseReps_eq_wordsOf {texts sorted : List String}
    (perm : sorted.Perm ((texts.map Text.trim).filter fun word => !word.isEmpty))
    (ordered : sorted.Pairwise fun a b => ¬ Precedes b a) : sorted.eraseReps = wordsOf texts := by
  rw [eraseReps_eq_foldr_insertWord ordered]
  refine eq_of_pairwise_precedes (pairwise_foldr_insertWord sorted) (pairwise_wordsOf texts) fun word => ?_
  rw [wordsOf, mem_foldr_insertWord, mem_foldr_insertWord, perm.mem_iff]

/-! ### The same words -/

/-- The two vocabularies have the same words for every concern. -/
def Vocabulary.SameWords (vocabulary other : Vocabulary) : Prop :=
  ∀ concern word, vocabulary.Names concern word ↔ other.Names concern word

/-- **Vocabularies have the same words** exactly when the lists of these are the same. -/
theorem sameWords_iff {vocabulary other : Vocabulary} :
    vocabulary.SameWords other ↔
      ∀ concern, wordsOf (vocabulary.textsFor concern) = wordsOf (other.textsFor concern) := by
  simp only [Vocabulary.SameWords, Vocabulary.Names, ← mem_wordsOf_iff]
  constructor
  · intro same concern
    exact eq_of_pairwise_precedes (pairwise_wordsOf _) (pairwise_wordsOf _) (same concern)
  · intro same concern word
    rw [same concern]

/-! ### The first concern without words -/

/-- The concern is the first without words, of those that need words. -/
structure Vocabulary.Lacks (vocabulary : Vocabulary) (concern : Concern) : Prop where
  /-- The concern needs words. -/
  worded : concern ∈ wordedConcerns
  /-- It has none. -/
  wordless : ∀ word, ¬ vocabulary.Names concern word
  /-- The concerns before it have words. -/
  first : ∀ earlier ∈ wordedConcerns.takeWhile (· ≠ concern), ∃ word, vocabulary.Names earlier word

section Made

variable {vocabulary other : Vocabulary} {thresholds : Thresholds}

theorem Vocabulary.Lacks.unique {concern concern' : Concern} (lacks : vocabulary.Lacks concern)
    (lacks' : vocabulary.Lacks concern') : concern = concern' := by
  by_contra differ
  -- of two concerns that need words one comes before the other
  have ordered : ∀ one ∈ wordedConcerns, ∀ two ∈ wordedConcerns, one ≠ two →
      one ∈ wordedConcerns.takeWhile (· ≠ two) ∨ two ∈ wordedConcerns.takeWhile (· ≠ one) := by
    decide
  rcases ordered concern lacks.worded concern' lacks'.worded differ with before | before
  · obtain ⟨word, names⟩ := lacks'.first concern before
    exact lacks.wordless word names
  · obtain ⟨word, names⟩ := lacks.first concern' before
    exact lacks'.wordless word names

theorem Vocabulary.Lacks.of_sameWords (same : vocabulary.SameWords other) {concern : Concern}
    (lacks : vocabulary.Lacks concern) : other.Lacks concern where
  worded := lacks.worded
  wordless word names := lacks.wordless word ((same concern word).2 names)
  first earlier before := by
    obtain ⟨word, names⟩ := lacks.first earlier before
    exact ⟨word, (same earlier word).1 names⟩

theorem lexiconFor_eq_error_iff {concern : Concern} {texts : List String} {error : EmptyVocabulary} :
    lexiconFor concern texts = .error error ↔ error = ⟨concern⟩ ∧ wordsOf texts = [] := by
  rw [lexiconFor, Lexicon.ofTexts?]
  by_cases empty : wordsOf texts = []
  · simp [empty, eq_comm]
  · simp [empty]

theorem names_of_lexiconFor_eq_ok {concern : Concern} {lexicon : Lexicon}
    (made : lexiconFor concern (vocabulary.textsFor concern) = .ok lexicon) :
    ∃ word, vocabulary.Names concern word := by
  obtain ⟨word, member⟩ := List.exists_mem_of_ne_nil _ lexicon.ne_nil
  exact ⟨word, mem_wordsOf_iff.1 (lexiconFor_eq_ok_iff.1 made ▸ member)⟩

theorem lacks_of_lexiconFor_eq_error {concern : Concern} {error : EmptyVocabulary}
    (worded : concern ∈ wordedConcerns)
    (failed : lexiconFor concern (vocabulary.textsFor concern) = .error error)
    (first : ∀ earlier ∈ wordedConcerns.takeWhile (· ≠ concern),
      ∃ word, vocabulary.Names earlier word) : vocabulary.Lacks error.concern := by
  obtain ⟨rfl, empty⟩ := lexiconFor_eq_error_iff.1 failed
  refine ⟨worded, fun word names => ?_, first⟩
  have member : word ∈ wordsOf (vocabulary.textsFor concern) := mem_wordsOf_iff.2 names
  rw [empty] at member
  exact List.not_mem_nil member

theorem lacks_of_ofVocabulary_eq_error {error : EmptyVocabulary}
    (failed : Rules.ofVocabulary vocabulary thresholds = .error error) :
    vocabulary.Lacks error.concern := by
  rw [Rules.ofVocabulary] at failed
  cases paces : lexiconFor .pace vocabulary.speeds with
  | error cause =>
    rw [paces] at failed
    cases failed
    refine lacks_of_lexiconFor_eq_error (by decide) paces fun earlier before => ?_
    exact absurd (show earlier ∈ [] from before) List.not_mem_nil
  | ok speeds =>
    have paced : ∃ word, vocabulary.Names .pace word := names_of_lexiconFor_eq_ok paces
    cases hues : lexiconFor .colour vocabulary.colours with
    | error cause =>
      rw [paces, hues] at failed
      cases failed
      refine lacks_of_lexiconFor_eq_error (by decide) hues fun earlier before => ?_
      obtain rfl := List.mem_singleton.1 (show earlier ∈ [.pace] from before)
      exact paced
    | ok colours =>
      have hued : ∃ word, vocabulary.Names .colour word := names_of_lexiconFor_eq_ok hues
      cases moves : lexiconFor .effect vocabulary.effects with
      | ok effects =>
        rw [paces, hues, moves] at failed
        cases failed
      | error cause =>
        rw [paces, hues, moves] at failed
        cases failed
        refine lacks_of_lexiconFor_eq_error (by decide) moves fun earlier before => ?_
        rcases List.mem_pair.1 (show earlier ∈ [.pace, .colour] from before) with rfl | rfl
        · exact paced
        · exact hued

/-- **Making rules fails for the first concern without words**, and only for want of words. -/
theorem ofVocabulary_eq_error_iff {error : EmptyVocabulary} :
    Rules.ofVocabulary vocabulary thresholds = .error error ↔ vocabulary.Lacks error.concern := by
  refine ⟨lacks_of_ofVocabulary_eq_error, fun lacks => ?_⟩
  cases made : Rules.ofVocabulary vocabulary thresholds with
  | ok rules =>
    obtain ⟨word, names⟩ := exists_ofVocabulary_iff.1 ⟨rules, made⟩ _ lacks.worded
    exact absurd names (lacks.wordless word)
  | error cause =>
    have same : cause.concern = error.concern := (lacks_of_ofVocabulary_eq_error made).unique lacks
    exact congrArg Except.error (congrArg EmptyVocabulary.mk same)

theorem ofVocabulary_eq_of_sameWords (same : vocabulary.SameWords other) :
    Rules.ofVocabulary vocabulary thresholds = Rules.ofVocabulary other thresholds := by
  cases made : Rules.ofVocabulary vocabulary thresholds with
  | ok rules =>
    obtain ⟨words, limits⟩ := ofVocabulary_eq_ok_iff.1 made
    refine (ofVocabulary_eq_ok_iff.2 ⟨fun concern => ?_, limits⟩).symm
    rw [words concern, sameWords_iff.1 same concern]
  | error cause =>
    exact (ofVocabulary_eq_error_iff.2 ((ofVocabulary_eq_error_iff.1 made).of_sameWords same)).symm

/-- **Only the words matter.**  Of two vocabularies with the same words, either both make rules or both
fail with one error.  There are no rules exactly when a concern that needs words has none, and the error
names the first of these.  The rules of the one have the words that are left when its texts are trimmed,
sorted and freed of blank texts and equal neighbours, and in every story they find what the rules of the
other do. -/
theorem only_words_matter (same : vocabulary.SameWords other) (thresholds : Thresholds) :
    Rules.ofVocabulary vocabulary thresholds = Rules.ofVocabulary other thresholds ∧
      (∀ concern, Rules.ofVocabulary vocabulary thresholds = .error ⟨concern⟩ ↔
        vocabulary.Lacks concern) ∧
      ((∃ rules, Rules.ofVocabulary vocabulary thresholds = .ok rules) ↔
        ∀ concern ∈ wordedConcerns, ∃ word, vocabulary.Names concern word) ∧
      ∀ rules rules', Rules.ofVocabulary vocabulary thresholds = .ok rules →
        Rules.ofVocabulary other thresholds = .ok rules' →
          (∀ (concern : Concern) (sorted : List String),
            sorted.Perm (((vocabulary.textsFor concern).map Text.trim).filter fun word => !word.isEmpty) →
              (sorted.Pairwise fun a b => ¬ Precedes b a) →
                rules.wordsFor concern = sorted.eraseReps) ∧
          ∀ (graph : Graph) (concern : Concern),
            rules.metadataViolations graph concern = rules'.metadataViolations graph concern ∧
              rules.lineViolations graph concern = rules'.lineViolations graph concern ∧
              rules.overuse graph concern = rules'.overuse graph concern := by
  refine ⟨ofVocabulary_eq_of_sameWords same, fun concern => ofVocabulary_eq_error_iff,
    exists_ofVocabulary_iff, ?_⟩
  intro rules rules' made made'
  rw [ofVocabulary_eq_of_sameWords same, made'] at made
  obtain rfl := Except.ok.inj made
  rw [← ofVocabulary_eq_of_sameWords same] at made'
  refine ⟨fun concern sorted perm ordered => ?_, fun graph concern => ⟨rfl, rfl, rfl⟩⟩
  rw [(ofVocabulary_eq_ok_iff.1 made').1 concern, eraseReps_eq_wordsOf perm ordered]

end Made

/-- The words of `stemsAndDots` in another order, with blank texts and repetitions. -/
def dotsAndStems : Vocabulary where
  speeds := ["a.b\n", "\u00a0", "faster", "fast", "a.b", "faster"]
  colours := ["\tteal ", "teal"]
  effects := ["", "shiver"]

theorem only_words_matter_dotsAndStems :
    stemsAndDots.SameWords dotsAndStems ∧
      Rules.ofVocabulary stemsAndDots {} = .ok stemsAndDotsRules ∧
      Rules.ofVocabulary dotsAndStems {} = .ok stemsAndDotsRules ∧
      stemsAndDotsRules.wordsFor .pace = ["faster", "fast", "fast", "a.b"].eraseReps := by
  have same : stemsAndDots.SameWords dotsAndStems :=
    sameWords_iff.2 fun concern => by cases concern <;> decide
  obtain ⟨equal, -, -, finds⟩ := only_words_matter same {}
  have made : Rules.ofVocabulary dotsAndStems {} = .ok stemsAndDotsRules :=
    equal ▸ ofVocabulary_stemsAndDots
  obtain ⟨sorted, -⟩ := finds _ _ ofVocabulary_stemsAndDots made
  exact ⟨same, ofVocabulary_stemsAndDots, made,
    sorted .pace ["faster", "fast", "fast", "a.b"] (by decide) (by decide)⟩

end Gamebook.Marker
