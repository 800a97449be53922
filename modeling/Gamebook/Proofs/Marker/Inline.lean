import Gamebook.Proofs.Marker.Declared
import Gamebook.Proofs.Marker.Lines

/-!
# Values of metadata as markers

A value that may be declared in the metadata can be switched to in the prose: by a slash and the value if
it is a word, and by a slash, the name of the concern and the value otherwise (`Vocabulary.inline`).
What is written so is one marker, all of it, and it may stand on lines of its own
(`inline_is_one_marker`).

## Words in the way

Behind the slash the name of a pace or of a colour is read as a word where a word begins like it.  Such a
word hides the marker of a value that is not a word itself, and then nothing is said here.

## Lines of a marker

A word may have slashes in it, so it is one marker because it is found whole.  The other values have none,
so that no line of theirs has a second marker, whatever is found in it.
-/

namespace Gamebook.Marker

open Gamebook.Story (Concern)

/-- A slash and the value if that is a word, and a slash, the name and the value if it is not. -/
def Vocabulary.wordOrNamed (vocabulary : Vocabulary) (concern : Concern) (name : String)
    (value : List Char) : Occurrence :=
  if vocabulary.Names concern (String.ofList value) then ⟨'/' :: value, value⟩
  else ⟨'/' :: (name.toList ++ value), name.toList ++ value⟩

/-- The marker with that lead and value. -/
def Occurrence.ofLead (lead : String) (value : List Char) : Occurrence := ⟨lead.toList ++ value, value⟩

/-- The marker by which prose switches to a value that may be declared. -/
def Vocabulary.inline (vocabulary : Vocabulary) : Concern → (value : List Char) → Occurrence
  | .pace, value => vocabulary.wordOrNamed .pace "speed " value
  | .colour, value => vocabulary.wordOrNamed .colour "colour " value
  | .effect, value => ⟨'/' :: value, value⟩
  | .pointOfView, value => .ofLead "/pov " value
  | .message, value => .ofLead "/message " value
  | .messageTitle, value => .ofLead "/message-title " value

/-! ### Words -/

section Words

variable {vocabulary : Vocabulary} {concern : Concern} {value : List Char}

theorem Vocabulary.Names.worded {word : String} (names : vocabulary.Names concern word) :
    concern ∈ wordedConcerns := by
  obtain ⟨-, text, member, -⟩ := names
  cases concern with
  | pace => decide
  | colour => decide
  | effect => decide
  | pointOfView => cases member
  | message => cases member
  | messageTitle => cases member

theorem Vocabulary.Names.inline_eq (names : vocabulary.Names concern (String.ofList value)) :
    vocabulary.inline concern value = ⟨'/' :: value, value⟩ := by
  rcases mem_wordedConcerns_iff.1 names.worded with rfl | rfl | rfl
  · exact if_pos names
  · exact if_pos names
  · rfl

/-! ### Values without slashes -/

theorem IsDuration.slash_not_mem (duration : IsDuration value) : '/' ∉ value := by
  obtain ⟨digits, gap, rfl, -, all, -, blank⟩ := duration
  intro member
  rcases List.mem_append.1 member with digit | member
  · exact absurd (all _ digit) (by decide +kernel)
  · rcases List.mem_append.1 member with isIn | unit
    · exact absurd (blank _ isIn) (by decide)
    · exact absurd unit (by decide)

theorem IsHexColour.slash_not_mem {n : Nat} (colour : IsHexColour n value) : '/' ∉ value := by
  obtain ⟨digits, rfl, -, all⟩ := colour
  intro member
  rcases List.mem_cons.1 member with hash | digit
  · exact absurd hash (by decide)
  · exact absurd (all _ digit) (by decide)

theorem IsName.slash_not_mem (name : IsName value) : '/' ∉ value :=
  fun member => absurd (name.2 _ member) (by decide +kernel)

/-- The marker of a value that is not a word has one slash, at its start. -/
theorem Declarable.exists_inline_eq_cons (declarable : Declarable vocabulary concern value)
    (other : ¬ vocabulary.Names concern (String.ofList value)) :
    ∃ rest, (vocabulary.inline concern value).whole = '/' :: rest ∧ '/' ∉ rest := by
  have behind : ∀ {name : List Char}, '/' ∉ name → '/' ∉ value → '/' ∉ name ++ value :=
    fun name_free free member => (List.mem_append.1 member).elim name_free free
  have introduced_by : ∀ {lead : List Char}, lead ∈ leads concern → '/' ∉ value →
      ∃ rest, lead ++ value = '/' :: rest ∧ '/' ∉ rest := by
    intro lead member free
    obtain ⟨name, rfl, name_free, -⟩ := slash_of_mem_leads member
    exact ⟨name ++ value, rfl, behind name_free free⟩
  cases concern with
  | pace =>
    rw [Vocabulary.inline, Vocabulary.wordOrNamed, if_neg other]
    exact ⟨_, rfl, behind (by decide) (declarable.resolve_left other).slash_not_mem⟩
  | colour =>
    rw [Vocabulary.inline, Vocabulary.wordOrNamed, if_neg other]
    refine ⟨_, rfl, behind (by decide) ?_⟩
    rcases declarable.resolve_left other with three | six
    · exact three.slash_not_mem
    · exact six.slash_not_mem
  | effect => exact absurd declarable other
  | pointOfView => exact introduced_by List.mem_cons_self (IsName.slash_not_mem declarable)
  | message => exact introduced_by List.mem_cons_self (IsName.slash_not_mem declarable)
  | messageTitle =>
    rw [Vocabulary.inline]
    exact introduced_by List.mem_cons_self declarable.2.1

end Words

/-! ### One marker -/

section Made

variable {vocabulary : Vocabulary} {thresholds : Thresholds} {rules : Rules} {concern : Concern}
  {value : List Char}

theorem occurrence?_of_lead {lead : List Char} {more : List (List Char)}
    (first : leads concern = lead :: more) (found : rules.value? concern value = some value) :
    rules.occurrence? concern (lead ++ value) = some ⟨lead ++ value, value⟩ := by
  have leads : Text.following? lead (lead ++ value) = some value := Text.following?_eq_some_iff.2 rfl
  have here : rules.occurrenceAfter? concern (lead ++ value) lead = some ⟨lead ++ value, value⟩ := by
    rw [Rules.occurrenceAfter?, leads, Option.bind_some, found]
    rfl
  rw [Rules.occurrence?, first, List.findSome?_cons, here]

theorem run?_eq_self {inClass : Char → Bool} (given : value ≠ []) (all : ∀ c ∈ value, inClass c = true) :
    run? inClass value = some value :=
  run?_eq_some_iff.2 ⟨given, List.takeWhile_eq_self_iff.2 all⟩

/-- **The marker of a value is found**, and all of it, unless a word hides it. -/
theorem Declarable.occurrence?_inline (made : Rules.ofVocabulary vocabulary thresholds = .ok rules)
    (declarable : Declarable vocabulary concern value)
    (unhidden : ¬ vocabulary.Names concern (String.ofList value) → ∀ word,
      vocabulary.Names concern word → ¬ word.toList <+: (vocabulary.inline concern value).value) :
    rules.occurrence? concern (vocabulary.inline concern value).whole =
      some (vocabulary.inline concern value) := by
  by_cases names : vocabulary.Names concern (String.ofList value)
  · rw [names.inline_eq]
    have longest : LongestWord vocabulary concern value value :=
      ⟨names, List.prefix_rfl, fun _ _ leads => leads.length_le⟩
    exact (findsSlashed made names.worded).found_iff.2 ⟨value, value, rfl, .inl longest, rfl⟩
  · have hidden_by_none := unhidden names
    cases concern with
    | pace =>
      rw [Vocabulary.inline, Vocabulary.wordOrNamed, if_neg names] at hidden_by_none ⊢
      have form : FormAt .pace ("speed ".toList ++ value) ("speed ".toList ++ value) :=
        ⟨List.prefix_rfl, value, rfl, declarable.resolve_left names⟩
      exact (findsSlashed made (by decide)).found_iff.2 ⟨_, _, rfl, .inr ⟨hidden_by_none, form⟩, rfl⟩
    | colour =>
      rw [Vocabulary.inline, Vocabulary.wordOrNamed, if_neg names] at hidden_by_none ⊢
      have form : FormAt .colour ("colour ".toList ++ value) ("colour ".toList ++ value) := by
        refine ⟨List.prefix_rfl, value, rfl, ?_⟩
        rcases declarable.resolve_left names with three | six
        · refine .inr ⟨three, fun longer six leads => ?_⟩
          have short := ((List.prefix_append_right_inj _).1 leads).length_le
          rw [six.length_eq, three.length_eq] at short
          exact absurd short (by decide)
        · exact .inl six
      exact (findsSlashed made (by decide)).found_iff.2 ⟨_, _, rfl, .inr ⟨hidden_by_none, form⟩, rfl⟩
    | effect => exact absurd declarable names
    | pointOfView => exact occurrence?_of_lead rfl (run?_eq_self declarable.1 declarable.2)
    | message => exact occurrence?_of_lead rfl (run?_eq_self declarable.1 declarable.2)
    | messageTitle =>
      have title : ∀ c ∈ value, (c != '/') = true :=
        fun c member => bne_iff_ne.2 fun same => declarable.2.1 (same ▸ member)
      rw [Vocabulary.inline]
      exact occurrence?_of_lead rfl (run?_eq_self declarable.1 title)

/-! ### Lines of a marker -/

/-- There are not more markers in a text than slashes. -/
theorem length_occurrencesFrom_le_count {find? : List Char → Option Occurrence}
    (slash : ∀ {s marker}, find? s = some marker → s.head? = some '/') (skip : Nat) (s : List Char) :
    (occurrencesFrom find? skip s).length ≤ s.count '/' := by
  induction s generalizing skip with
  | nil => rw [occurrencesFrom_nil]; exact Nat.zero_le _
  | cons c s ih =>
    have more : s.count '/' ≤ (c :: s).count '/' := List.count_le_count_cons
    cases skip with
    | succ skip => exact (ih skip).trans more
    | zero =>
      rw [occurrencesFrom]
      cases found : find? (c :: s) with
      | none => exact (ih 0).trans more
      | some marker =>
        obtain rfl : c = '/' := Option.some.inj (slash found)
        rw [List.count_cons_self]
        exact Nat.succ_le_succ (ih _)

theorem lineValid_of_length_le_one {line : List Char} (few : (rules.occurrences concern line).length ≤ 1)
    (first : rules.occurrences concern line ≠ [] → line.head? = some '/') :
    rules.lineValid concern line = true := by
  rw [Rules.lineValid]
  cases found : rules.occurrences concern line with
  | nil => rfl
  | cons marker more =>
    rw [found] at few first
    obtain rfl : more = [] := List.length_eq_zero_iff.1 (Nat.le_zero.1 (Nat.le_of_succ_le_succ few))
    rw [first (List.cons_ne_nil _ _)]
    exact Bool.and_eq_true_iff.2 ⟨Bool.or_true _, rfl⟩

/-- A text with one slash, at its start, has valid lines. -/
theorem linesValid_of_slash_not_mem (rules : Rules) (concern : Concern) {rest : List Char}
    (free : '/' ∉ rest) : rules.linesValid concern (String.ofList ('/' :: rest)) = true := by
  refine List.all_eq_true.2 fun line prose => ?_
  have few : (rules.occurrences concern line).length ≤ line.count '/' :=
    length_occurrencesFrom_le_count head?_of_occurrence? 0 line
  rcases Text.eq_cons_or_subset_of_mem_proseLines (by decide) prose with ⟨more, rfl, within⟩ | within
  · rw [List.count_cons_self, List.count_eq_zero_of_not_mem fun member => free (within member)] at few
    exact lineValid_of_length_le_one few fun _ => rfl
  · rw [List.count_eq_zero_of_not_mem fun member => free (within member)] at few
    have none : rules.occurrences concern line = [] := List.length_eq_zero_iff.1 (Nat.le_zero.1 few)
    exact lineValid_of_length_le_one (by rw [none]; decide) fun given => absurd none given

/-- A word on one line is a valid line as a marker, if it is the only one there. -/
theorem linesValid_of_single {rest : List Char} (feed : '\n' ∉ rest) (bare : Text.EndsBare rest)
    (given : rest ≠ []) {marker : Occurrence}
    (single : rules.occurrences concern ('/' :: rest) = [marker]) :
    rules.linesValid concern (String.ofList ('/' :: rest)) = true := by
  have bare' : Text.Bare ('/' :: rest) :=
    ⟨fun c first => Option.some.inj first ▸ (by decide), bare.append given ['/']⟩
  have feed' : '\n' ∉ '/' :: rest := fun member =>
    (List.mem_cons.1 member).elim (fun same => absurd same (by decide)) feed
  rw [Rules.linesValid, Text.proseLines_eq_singleton feed' bare' (List.cons_ne_nil _ _), List.all_cons,
    List.all_nil, Bool.and_true]
  exact lineValid_of_length_le_one (by rw [single]; exact Nat.le_refl 1) fun _ => rfl

/-- **Metadata and prose share one vocabulary.**  A value that is accepted in the metadata, written as a
marker, is one marker of its concern, whose group is the value as it is written, and its lines are valid.
Words are taken to be without line feeds, and a value that is not a word to be hidden by none. -/
theorem inline_is_one_marker (made : Rules.ofVocabulary vocabulary thresholds = .ok rules)
    (feed : ∀ word, vocabulary.Names concern word → '\n' ∉ word.toList)
    (accepted : rules.accepts concern value = true)
    (unhidden : ¬ vocabulary.Names concern (String.ofList value) → ∀ word,
      vocabulary.Names concern word → ¬ word.toList <+: (vocabulary.inline concern value).value) :
    rules.occurrences concern (vocabulary.inline concern value).whole =
        [vocabulary.inline concern value] ∧
      (rules.markerPattern concern).matchesIn (vocabulary.inline concern value).whole =
        [(vocabulary.inline concern value).toMatch] ∧
      rules.linesValid concern (String.ofList (vocabulary.inline concern value).whole) = true := by
  have declarable := (accepts_iff_declarable made).1 accepted
  have found := declarable.occurrence?_inline made unhidden
  have single : rules.occurrences concern (vocabulary.inline concern value).whole =
      [vocabulary.inline concern value] := by
    have given : (vocabulary.inline concern value).whole ≠ [] := fun none => by
      have first := head?_of_occurrence? found
      rw [none] at first
      cases first
    have listed := occurrencesFrom_of_found _ [] given (by rwa [List.append_nil])
    rwa [List.append_nil, occurrencesFrom_nil] at listed
  refine ⟨single, by rw [matchesIn_markerPattern, single]; rfl, ?_⟩
  by_cases names : vocabulary.Names concern (String.ofList value)
  · rw [names.inline_eq] at single ⊢
    have feed' := feed _ names
    have given := names.toList_ne_nil
    rw [String.toList_ofList] at feed' given
    exact linesValid_of_single feed' names.endsBare given single
  · obtain ⟨rest, whole, free⟩ := declarable.exists_inline_eq_cons names
    rw [whole]
    exact linesValid_of_slash_not_mem rules concern free

theorem inline_duration_over_lines :
    Rules.ofVocabulary stemsAndDots {} = .ok stemsAndDotsRules ∧
      (∀ word, stemsAndDots.Names .pace word → '\n' ∉ word.toList) ∧
      stemsAndDotsRules.accepts .pace "80\nms".toList = true ∧
      ¬ stemsAndDots.Names .pace "80\nms" ∧
      (∀ word, stemsAndDots.Names .pace word → ¬ word.toList <+: "speed 80\nms".toList) ∧
      stemsAndDotsRules.occurrences .pace "/speed 80\nms".toList =
        [⟨"/speed 80\nms".toList, "speed 80\nms".toList⟩] ∧
      stemsAndDotsRules.linesValid .pace "/speed 80\nms" = true := by
  have words : ∀ word, stemsAndDots.Names .pace word → word ∈ ["faster", "fast", "a.b"] :=
    fun _ => (mem_wordsFor_iff ofVocabulary_stemsAndDots).2
  have feed : ∀ word, stemsAndDots.Names .pace word → '\n' ∉ word.toList := fun word names =>
    (show ∀ word ∈ ["faster", "fast", "a.b"], '\n' ∉ word.toList by decide) word (words word names)
  have unhidden : ∀ word, stemsAndDots.Names .pace word → ¬ word.toList <+: "speed 80\nms".toList :=
    fun word names => (show ∀ word ∈ ["faster", "fast", "a.b"],
      ¬ word.toList <+: "speed 80\nms".toList by decide) word (words word names)
  have accepted : stemsAndDotsRules.accepts .pace "80\nms".toList = true := by decide +kernel
  have other : ¬ stemsAndDots.Names .pace "80\nms" := by decide
  have written : stemsAndDots.inline .pace "80\nms".toList =
      ⟨"/speed 80\nms".toList, "speed 80\nms".toList⟩ := by decide +kernel
  obtain ⟨single, -, valid⟩ := inline_is_one_marker ofVocabulary_stemsAndDots feed accepted
    (written ▸ fun _ => unhidden)
  rw [written] at single valid
  exact ⟨ofVocabulary_stemsAndDots, feed, accepted, other, unhidden, single, valid⟩

end Made

end Gamebook.Marker
