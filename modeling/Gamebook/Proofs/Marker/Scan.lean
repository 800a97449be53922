import Gamebook.Proofs.Marker.Patterns
import Gamebook.Proofs.Marker.Words

/-!
# Scanning for the longest word

The markers of a concern with words are found by a pattern in which the first word wins that fits.  This
file says what that amounts to: a scan from left to right for a slash that a value follows
(`Scanned`), where the value is the longest word that fits, and a form of its own only where no word
does (`ValueAt`).  A text is scanned in one way only, and that is how its markers are found
(`markers_scanned_for_longest_word`).

## Why places are passed over

A slash that no value follows is no marker, but a later one may be.  After a marker the scan goes on
behind its value, so a slash within a word is not looked at.
-/

namespace Gamebook.Marker

open Gamebook.Story (Concern)

/-! ### Values -/

section Values

variable (vocabulary : Vocabulary)

/-- The longest word of the concern that comes. -/
structure LongestWord (concern : Concern) (rest value : List Char) : Prop where
  names : vocabulary.Names concern (String.ofList value)
  leads : value <+: rest
  longest : ∀ other, vocabulary.Names concern other → other.toList <+: rest →
    other.toList.length ≤ value.length

/-- A value of the form that the concern has besides words.  For a pace it is a duration behind its name,
and for a colour it is one in digits behind its name, of six digits if as many are there and of three
otherwise. -/
def FormAt : Concern → (rest value : List Char) → Prop
  | .pace, rest, value =>
    value <+: rest ∧ ∃ duration, value = "speed ".toList ++ duration ∧ IsDuration duration
  | .colour, rest, value => value <+: rest ∧ ∃ colour, value = "colour ".toList ++ colour ∧
      (IsHexColour 6 colour ∨ IsHexColour 3 colour ∧
        ∀ longer, IsHexColour 6 longer → ¬ "colour ".toList ++ longer <+: rest)
  | .effect, _, _ => False
  | .pointOfView, _, _ => False
  | .message, _, _ => False
  | .messageTitle, _, _ => False

/-- What is read as the value where that comes: the longest word, or else a value of a form. -/
def ValueAt (concern : Concern) (rest value : List Char) : Prop :=
  LongestWord vocabulary concern rest value ∨
    (∀ word, vocabulary.Names concern word → ¬ word.toList <+: rest) ∧ FormAt concern rest value

end Values

theorem ValueAt.leads {vocabulary : Vocabulary} {concern : Concern} {rest value : List Char}
    (value_at : ValueAt vocabulary concern rest value) : value <+: rest := by
  rcases value_at with word | ⟨-, form⟩
  · exact word.leads
  · cases concern with
    | pace => exact form.1
    | colour => exact form.1
    | effect => exact form.elim
    | pointOfView => exact form.elim
    | message => exact form.elim
    | messageTitle => exact form.elim

/-! ### Scans -/

/-- The markers that a scan for slashes with a value finds. -/
inductive Scanned (valueAt : List Char → List Char → Prop) : List Char → List Occurrence → Prop
  /-- There is none if no slash is followed by a value. -/
  | done {s : List Char} (nowhere : ∀ front rest value, s = front ++ '/' :: rest → ¬ valueAt rest value) :
      Scanned valueAt s []
  /-- Otherwise the first such slash and its value are one, and the scan goes on behind them. -/
  | found {before value after : List Char} {more : List Occurrence}
      (nowhere : ∀ front rest other, before ++ '/' :: (value ++ after) = front ++ '/' :: rest →
        front.length < before.length → ¬ valueAt rest other)
      (here : valueAt (value ++ after) value) (behind : Scanned valueAt after more) :
      Scanned valueAt (before ++ '/' :: (value ++ after)) (⟨'/' :: value, value⟩ :: more)

section Scans

variable {find? : List Char → Option Occurrence}

/-- Places where nothing is found are passed over. -/
theorem occurrencesFrom_append_of_none {rest : List Char} :
    ∀ {before : List Char},
      (∀ front back, before = front ++ back → back ≠ [] → find? (back ++ rest) = none) →
      occurrencesFrom find? 0 (before ++ rest) = occurrencesFrom find? 0 rest
  | [], _ => rfl
  | c :: before, nothing => by
    have here : find? (c :: (before ++ rest)) = none :=
      nothing [] (c :: before) rfl (List.cons_ne_nil _ _)
    rw [List.cons_append, occurrencesFrom, here]
    refine occurrencesFrom_append_of_none fun front back split => nothing (c :: front) back ?_
    rw [split, List.cons_append]

/-- After a marker the search goes on behind it. -/
theorem occurrencesFrom_of_found (marker : Occurrence) (after : List Char) (given : marker.whole ≠ [])
    (found : find? (marker.whole ++ after) = some marker) :
    occurrencesFrom find? 0 (marker.whole ++ after) = marker :: occurrencesFrom find? 0 after := by
  obtain ⟨c, rest, whole⟩ := List.exists_cons_of_ne_nil given
  rw [whole, List.cons_append] at found ⊢
  rw [occurrencesFrom, found]
  show marker :: occurrencesFrom find? (marker.whole.length - 1) (rest ++ after) = _
  rw [occurrencesFrom_eq_drop, whole, List.length_cons, Nat.add_sub_cancel, List.drop_left]

variable {valueAt : List Char → List Char → Prop}

/-- What is found at the start of a text is a slash and a value that follows it. -/
structure FindsSlashed (find? : List Char → Option Occurrence)
    (valueAt : List Char → List Char → Prop) : Prop where
  leads : ∀ {rest value}, valueAt rest value → value <+: rest
  found_iff : ∀ {s marker}, find? s = some marker ↔
    ∃ rest value, s = '/' :: rest ∧ valueAt rest value ∧ marker = ⟨'/' :: value, value⟩

theorem FindsSlashed.eq_none_iff (finds : FindsSlashed find? valueAt) {s : List Char} :
    find? s = none ↔ ∀ rest value, s = '/' :: rest → ¬ valueAt rest value := by
  rw [Option.eq_none_iff_forall_ne_some]
  constructor
  · intro nothing rest value slash value_at
    exact nothing _ (finds.found_iff.2 ⟨rest, value, slash, value_at, rfl⟩)
  · intro nothing marker found
    obtain ⟨rest, value, slash, value_at, -⟩ := finds.found_iff.1 found
    exact nothing rest value slash value_at

/-- **What a scan finds is what is found from left to right.** -/
theorem occurrencesFrom_eq_of_scanned (finds : FindsSlashed find? valueAt)
    {s : List Char} {found : List Occurrence} (scanned : Scanned valueAt s found) :
    occurrencesFrom find? 0 s = found := by
  induction scanned with
  | @done s nowhere =>
    rw [← List.append_nil s, occurrencesFrom_append_of_none, occurrencesFrom_nil]
    intro front back split _
    rw [List.append_nil]
    refine finds.eq_none_iff.2 fun rest value slash => nowhere front rest value ?_
    rw [split, slash]
  | @found before value after more nowhere here behind ih =>
    rw [occurrencesFrom_append_of_none]
    · have first : find? ('/' :: (value ++ after)) = some ⟨'/' :: value, value⟩ :=
        finds.found_iff.2 ⟨_, value, rfl, here, rfl⟩
      have listed : occurrencesFrom find? 0 ('/' :: (value ++ after)) =
          ⟨'/' :: value, value⟩ :: occurrencesFrom find? 0 after :=
        occurrencesFrom_of_found ⟨'/' :: value, value⟩ after (List.cons_ne_nil _ _) first
      rw [listed, ih]
    · intro front back split given
      refine finds.eq_none_iff.2 fun rest other slash => nowhere front rest other ?_ ?_
      · rw [split, List.append_assoc, slash]
      · rw [split, List.length_append]
        exact Nat.lt_add_of_pos_right (List.length_pos_of_ne_nil given)

/-- A character at which no marker starts is passed over. -/
theorem Scanned.cons {c : Char} {s : List Char} {found : List Occurrence}
    (nothing : ∀ rest value, c :: s = '/' :: rest → ¬ valueAt rest value)
    (scanned : Scanned valueAt s found) : Scanned valueAt (c :: s) found := by
  cases scanned with
  | done nowhere =>
    refine .done fun front rest value split => ?_
    cases front with
    | nil => exact nothing rest value split
    | cons d front => exact nowhere front rest value (List.cons.inj split).2
  | @found before value after more nowhere here behind =>
    rw [← List.cons_append]
    refine .found (fun front rest other split early => ?_) here behind
    cases front with
    | nil => exact nothing rest other split
    | cons d front =>
      exact nowhere front rest other (List.cons.inj split).2 (Nat.lt_of_succ_lt_succ early)

/-- **Every text is scanned.** -/
theorem scanned_occurrencesFrom (finds : FindsSlashed find? valueAt) :
    ∀ s : List Char, Scanned valueAt s (occurrencesFrom find? 0 s)
  | [] => .done fun front rest value split => by simp at split
  | c :: s => by
    cases here : find? (c :: s) with
    | none =>
      rw [occurrencesFrom, here]
      exact (scanned_occurrencesFrom finds s).cons (finds.eq_none_iff.1 here)
    | some marker =>
      obtain ⟨rest, value, slash, value_at, rfl⟩ := finds.found_iff.1 here
      obtain ⟨after, rfl⟩ := finds.leads value_at
      have shorter : after.length < (c :: s).length := by
        rw [slash, List.length_cons, List.length_append]
        omega
      rw [slash] at here ⊢
      have listed : occurrencesFrom find? 0 ('/' :: (value ++ after)) =
          ⟨'/' :: value, value⟩ :: occurrencesFrom find? 0 after :=
        occurrencesFrom_of_found ⟨'/' :: value, value⟩ after (List.cons_ne_nil _ _) here
      rw [listed, ← List.nil_append ('/' :: (value ++ after))]
      exact .found (fun _ _ _ _ early => absurd early (Nat.not_lt_zero _)) value_at
        (scanned_occurrencesFrom finds after)
termination_by s => s.length
decreasing_by
  · exact Nat.lt_succ_self _
  · exact shorter

theorem occurrencesFrom_eq_iff_scanned (finds : FindsSlashed find? valueAt) {s : List Char}
    {found : List Occurrence} : occurrencesFrom find? 0 s = found ↔ Scanned valueAt s found :=
  ⟨fun same => same ▸ scanned_occurrencesFrom finds s, occurrencesFrom_eq_of_scanned finds⟩

end Scans

/-! ### Markers with words -/

section Made

variable {vocabulary : Vocabulary} {thresholds : Thresholds} {rules : Rules}

theorem word?_eq_some_iff {lexicon : Lexicon} {concern : Concern}
    (named : ∀ word, word ∈ lexicon.words ↔ vocabulary.Names concern word) {s value : List Char} :
    word? lexicon s = some value ↔ LongestWord vocabulary concern s value := by
  rw [word?, Option.map_eq_some_iff]
  simp only [Lexicon.leading?_eq_some_iff, named]
  constructor
  · rintro ⟨word, ⟨names, leads, longest⟩, rfl⟩
    exact ⟨by rwa [String.ofList_toList], leads, longest⟩
  · rintro ⟨names, leads, longest⟩
    exact ⟨_, ⟨names, by rwa [String.toList_ofList], by rwa [String.toList_ofList]⟩,
      String.toList_ofList⟩

theorem word?_eq_none_iff {lexicon : Lexicon} {concern : Concern}
    (named : ∀ word, word ∈ lexicon.words ↔ vocabulary.Names concern word) {s : List Char} :
    word? lexicon s = none ↔ ∀ word, vocabulary.Names concern word → ¬ word.toList <+: s := by
  rw [word?, Option.map_eq_none_iff, Lexicon.leading?_eq_none_iff]
  simp only [named]

theorem introduced_duration?_eq_some_iff {s value : List Char} :
    introduced "speed ".toList duration? s = some value ↔ FormAt .pace s value := by
  simp only [introduced_eq_some_iff, duration?_eq_some_iff, FormAt]
  constructor
  · rintro ⟨rest, duration, rfl, ⟨leads, is_duration⟩, rfl⟩
    exact ⟨(List.prefix_append_right_inj _).2 leads, duration, rfl, is_duration⟩
  · rintro ⟨⟨more, rfl⟩, duration, rfl, is_duration⟩
    exact ⟨duration ++ more, duration, List.append_assoc _ _ _,
      ⟨List.prefix_append _ _, is_duration⟩, rfl⟩

theorem introduced_hexColour?_eq_some_iff {s value : List Char} :
    introduced "colour ".toList hexColour? s = some value ↔ FormAt .colour s value := by
  simp only [introduced_eq_some_iff, hexColour?_eq_some_iff, FormAt]
  constructor
  · rintro ⟨rest, colour, rfl, ⟨leads, digits⟩, rfl⟩
    refine ⟨(List.prefix_append_right_inj _).2 leads, colour, rfl, digits.imp_right ?_⟩
    rintro ⟨three, shorter⟩
    exact ⟨three, fun longer six leads' =>
      shorter longer ((List.prefix_append_right_inj _).1 leads') six⟩
  · rintro ⟨⟨more, rfl⟩, colour, rfl, digits⟩
    refine ⟨colour ++ more, colour, List.append_assoc _ _ _,
      ⟨List.prefix_append _ _, digits.imp_right ?_⟩, rfl⟩
    rintro ⟨three, shorter⟩
    rw [List.append_assoc] at shorter
    exact ⟨three, fun longer leads' six =>
      shorter longer six ((List.prefix_append_right_inj _).2 leads')⟩

/-- **The value that rules read** after a slash is what may be read there. -/
theorem value?_eq_some_iff (made : Rules.ofVocabulary vocabulary thresholds = .ok rules)
    {concern : Concern} (worded : concern ∈ wordedConcerns) {s value : List Char} :
    rules.value? concern s = some value ↔ ValueAt vocabulary concern s value := by
  have named : ∀ concern word, word ∈ rules.wordsFor concern ↔ vocabulary.Names concern word :=
    fun concern word => mem_wordsFor_iff made
  rcases mem_wordedConcerns_iff.1 worded with rfl | rfl | rfl
  · rw [Rules.value?, Option.or_eq_some_iff, word?_eq_some_iff (named .pace),
      word?_eq_none_iff (named .pace), introduced_duration?_eq_some_iff, ValueAt]
  · rw [Rules.value?, Option.or_eq_some_iff, word?_eq_some_iff (named .colour),
      word?_eq_none_iff (named .colour), introduced_hexColour?_eq_some_iff, ValueAt]
  · rw [Rules.value?, word?_eq_some_iff (named .effect), ValueAt, FormAt, and_false, or_false]

theorem leads_of_worded {concern : Concern} (worded : concern ∈ wordedConcerns) :
    Marker.leads concern = [['/']] := by
  rcases mem_wordedConcerns_iff.1 worded with rfl | rfl | rfl <;> rfl

/-- What rules find at the start of a text is a slash and what is read after it. -/
theorem findsSlashed (made : Rules.ofVocabulary vocabulary thresholds = .ok rules) {concern : Concern}
    (worded : concern ∈ wordedConcerns) :
    FindsSlashed (rules.occurrence? concern) (ValueAt vocabulary concern) where
  leads := ValueAt.leads
  found_iff := by
    intro s marker
    rw [occurrence?_eq_of_leads rules (leads_of_worded worded), Rules.occurrenceAfter?,
      Option.bind_eq_some_iff]
    simp only [Text.following?_eq_some_iff, Option.map_eq_some_iff, value?_eq_some_iff made worded]
    constructor
    · rintro ⟨rest, slash, value, value_at, rfl⟩
      exact ⟨rest, value, slash, value_at, rfl⟩
    · rintro ⟨rest, value, slash, value_at, rfl⟩
      exact ⟨rest, slash, value, value_at, rfl⟩

/-- **Markers with words are found by a scan for the longest word.**  A vocabulary with a word for each
concern that needs one makes rules, and the markers that their patterns find are those of the scan. -/
theorem markers_scanned_for_longest_word (vocabulary : Vocabulary) (thresholds : Thresholds)
    (named : ∀ concern ∈ wordedConcerns, ∃ word, vocabulary.Names concern word) :
    ∃ rules, Rules.ofVocabulary vocabulary thresholds = .ok rules ∧
      ∀ concern ∈ wordedConcerns, ∀ s : List Char,
        (rules.markerPattern concern).matchesIn s =
            (rules.occurrences concern s).map Occurrence.toMatch ∧
          ∀ found, rules.occurrences concern s = found ↔
            Scanned (ValueAt vocabulary concern) s found := by
  obtain ⟨rules, made⟩ := exists_ofVocabulary_iff.2 named
  refine ⟨rules, made, fun concern worded s =>
    ⟨matchesIn_markerPattern rules concern s, fun found => ?_⟩⟩
  exact occurrencesFrom_eq_iff_scanned (findsSlashed made worded)

theorem scanned_faster_and_dot :
    (∀ concern ∈ wordedConcerns, ∃ word, stemsAndDots.Names concern word) ∧
      ∃ rules, Rules.ofVocabulary stemsAndDots {} = .ok rules ∧
        (rules.markerPattern .pace).matchesIn "/faster, /axb/a.b".toList =
          [⟨"/faster".toList, some "faster".toList⟩, ⟨"/a.b".toList, some "a.b".toList⟩] ∧
        Scanned (ValueAt stemsAndDots .pace) "/faster, /axb/a.b".toList
          [⟨"/faster".toList, "faster".toList⟩, ⟨"/a.b".toList, "a.b".toList⟩] := by
  have named : ∀ concern ∈ wordedConcerns, ∃ word, stemsAndDots.Names concern word :=
    exists_ofVocabulary_iff.1 ⟨_, ofVocabulary_stemsAndDots⟩
  obtain ⟨rules, made, scans⟩ := markers_scanned_for_longest_word stemsAndDots {} named
  obtain rfl : stemsAndDotsRules = rules := Except.ok.inj (ofVocabulary_stemsAndDots.symm.trans made)
  obtain ⟨patterns, scanned_iff⟩ := scans .pace (by decide) "/faster, /axb/a.b".toList
  have found : stemsAndDotsRules.occurrences .pace "/faster, /axb/a.b".toList =
      [⟨"/faster".toList, "faster".toList⟩, ⟨"/a.b".toList, "a.b".toList⟩] := by decide +kernel
  exact ⟨named, _, made, by rw [patterns, found]; rfl, (scanned_iff _).1 found⟩

end Made

end Gamebook.Marker
