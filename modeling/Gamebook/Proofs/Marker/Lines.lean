import Gamebook.Proofs.Marker.Scan
import Gamebook.Proofs.Text.Lines
import Mathlib.Algebra.GroupWithZero.Nat
import Mathlib.Data.Set.Operations
import Mathlib.Order.Bounds.Basic

/-!
# Markers line by line

Markers are looked for in two ways.  Their use is judged in each line of prose by itself, and their overuse
in the whole text at once.  For a colour, an effect and a point of view both ways find the same markers
in the same order (`FindsInLine.occurrencesFrom_eq_flatMap`), so that how often a value occurs may be
counted either way (`overuse_counted_by_lines`).

## Why nothing is found across lines

A value of these concerns lies within a line: it has no line feed, and it does not end with a blank.  So
whether it stands at a place, and whether a longer one does, is seen in that line alone, and blanks at
the end of the line do not help (`Form.StaysInLine`).  A duration may have a line feed in front of
its unit, and a title may go on behind one, so for a pace and a title the two ways differ.
-/

namespace Gamebook.Marker

open Gamebook.Story (Concern)
open Gamebook.Text (AlikeInLine LineEnd WithinLine allBlank isBlank proseLines trimmed)

/-! ### Forms -/

/-- What the form finds lies within a line, and nothing but the line matters to it. -/
structure Form.StaysInLine (form : Form) : Prop where
  found : ∀ {s w : List Char}, form s = some w → w <+: s ∧ w ≠ [] ∧ WithinLine w
  alike : ∀ {s t : List Char}, AlikeInLine s t → form s = form t

theorem Form.staysInLine_of_kept {form : Form}
    (found : ∀ {s w}, form s = some w → w <+: s ∧ w ≠ [] ∧ WithinLine w)
    (kept : ∀ {s t w}, AlikeInLine s t → form s = some w → form t = some w) : form.StaysInLine where
  found := found
  alike alike := Option.ext fun _ => ⟨kept alike, kept alike.symm⟩

theorem staysInLine_word? {lexicon : Lexicon}
    (within : ∀ word ∈ lexicon.words, word.toList ≠ [] ∧ WithinLine word.toList) :
    Form.StaysInLine (word? lexicon) := by
  refine Form.staysInLine_of_kept (fun found => ?_) fun alike found => ?_
  · obtain ⟨word, leading, rfl⟩ := Option.map_eq_some_iff.1 found
    obtain ⟨member, leads, -⟩ := Lexicon.leading?_eq_some_iff.1 leading
    exact ⟨leads, within word member⟩
  · obtain ⟨word, leading, rfl⟩ := Option.map_eq_some_iff.1 found
    obtain ⟨member, leads, longest⟩ := Lexicon.leading?_eq_some_iff.1 leading
    have leading' := Lexicon.leading?_eq_some_iff.2 ⟨member, (alike _ (within word member).2).1 leads,
      fun other member' leads' => longest other member' ((alike _ (within other member').2).2 leads')⟩
    exact Option.map_eq_some_iff.2 ⟨word, leading', rfl⟩

theorem staysInLine_run? {inClass : Char → Bool} (bare : ∀ c, inClass c = true → isBlank c = false) :
    Form.StaysInLine (run? inClass) where
  found {s w} found := by
    obtain ⟨given, rfl⟩ := run?_eq_some_iff.1 found
    have all : ∀ c ∈ s.takeWhile inClass, inClass c = true := List.all_eq_true.1 List.all_takeWhile
    exact ⟨List.takeWhile_prefix _, given,
      Text.withinLine_of_forall fun c member => bare c (all c member)⟩
  alike alike := by rw [run?, run?, alike.takeWhile_eq bare]

theorem staysInLine_hexDigits? {n : Nat} (given : n ≠ 0) : Form.StaysInLine (hexDigits? n) := by
  refine Form.staysInLine_of_kept (fun found => ?_) fun alike found => ?_
  · obtain ⟨leads, rfl, all⟩ := hexDigits?_eq_some_iff.1 found
    exact ⟨leads, List.ne_nil_of_length_pos (Nat.pos_of_ne_zero given),
      Text.withinLine_of_forall fun c member => Text.isBlank_of_isDigit_sixteen (all c member)⟩
  · obtain ⟨leads, long, all⟩ := hexDigits?_eq_some_iff.1 found
    have within : WithinLine _ :=
      Text.withinLine_of_forall fun c member => Text.isBlank_of_isDigit_sixteen (all c member)
    exact hexDigits?_eq_some_iff.2 ⟨(alike _ within).1 leads, long, all⟩

theorem Form.StaysInLine.introduced {form : Form} (stays : form.StaysInLine) {lead : List Char}
    (feed : '\n' ∉ lead) : Form.StaysInLine (introduced lead form) := by
  have within : ∀ {s value}, form s = some value → WithinLine (lead ++ value) := fun inner =>
    (stays.found inner).2.2.append (stays.found inner).2.1 feed
  refine Form.staysInLine_of_kept (fun found => ?_) fun alike found => ?_
  · obtain ⟨rest, value, rfl, inner, rfl⟩ := introduced_eq_some_iff.1 found
    obtain ⟨leads, given, -⟩ := stays.found inner
    exact ⟨(List.prefix_append_right_inj _).2 leads, List.append_ne_nil_of_right_ne_nil _ given,
      within inner⟩
  · obtain ⟨rest, value, rfl, inner, rfl⟩ := introduced_eq_some_iff.1 found
    have leads : lead ++ value <+: lead ++ rest :=
      (List.prefix_append_right_inj _).2 (stays.found inner).1
    obtain ⟨more, rfl⟩ := (alike _ (within inner)).1 leads
    rw [List.append_assoc] at alike ⊢
    refine introduced_eq_some_iff.2 ⟨_, value, rfl, ?_, rfl⟩
    rw [← stays.alike (alike.of_append feed), inner]

theorem Form.StaysInLine.or {form form' : Form} (stays : form.StaysInLine) (stays' : form'.StaysInLine) :
    Form.StaysInLine fun s => (form s).or (form' s) where
  found found := by
    rcases Option.or_eq_some_iff.1 found with found | ⟨-, found⟩
    · exact stays.found found
    · exact stays'.found found
  alike alike := by rw [stays.alike alike, stays'.alike alike]

theorem staysInLine_hexColour? : Form.StaysInLine hexColour? := by
  have digits :=
    (staysInLine_hexDigits? (n := 6) (by decide)).or (staysInLine_hexDigits? (n := 3) (by decide))
  rw [funext hexColour?_eq_introduced]
  exact digits.introduced (by decide)

/-! ### Finding within a line -/

section Finders

variable {find? : List Char → Option Occurrence}

/-- What is found begins with a slash, and nothing but the line matters to it. -/
structure FindsInLine (find? : List Char → Option Occurrence) : Prop where
  leads : ∀ {s : List Char} {marker : Occurrence}, find? s = some marker → marker.whole <+: s
  slash : ∀ {s : List Char} {marker : Occurrence}, find? s = some marker → s.head? = some '/'
  alike : ∀ {s t : List Char}, AlikeInLine s t → find? s = find? t

/-- Blanks in front of a text are passed over. -/
theorem FindsInLine.occurrencesFrom_blank_append (finds : FindsInLine find?) {front : List Char}
    (blank : allBlank front = true) (s : List Char) :
    occurrencesFrom find? 0 (front ++ s) = occurrencesFrom find? 0 s := by
  refine occurrencesFrom_append_of_none fun passed back split given => ?_
  obtain ⟨c, back, rfl⟩ := List.exists_cons_of_ne_nil given
  have isIn := List.all_eq_true.1 blank c (split ▸ List.mem_append_right _ List.mem_cons_self)
  refine Option.eq_none_iff_forall_ne_some.2 fun marker found => ?_
  obtain rfl : c = '/' := Option.some.inj (finds.slash found)
  exact absurd isIn (by decide)

/-- **A line is searched by itself.**  What ends the line changes nothing in it, and the search goes on
after the line as if it began there. -/
theorem FindsInLine.occurrencesFrom_append (finds : FindsInLine find?) {tail : List Char}
    (ends : LineEnd tail) {u : List Char} {skip : Nat} (short : skip ≤ u.length) :
    occurrencesFrom find? skip (u ++ tail) =
      occurrencesFrom find? skip u ++ occurrencesFrom find? 0 tail := by
  induction u generalizing skip with
  | nil =>
    obtain rfl : skip = 0 := Nat.le_zero.1 short
    rfl
  | cons c u ih =>
    cases skip with
    | succ skip => exact ih (Nat.le_of_succ_le_succ short)
    | zero =>
      have same : find? (c :: (u ++ tail)) = find? (c :: u) :=
        finds.alike (Text.alikeInLine_append (u := c :: u) ends)
      rw [List.cons_append, occurrencesFrom, occurrencesFrom, same]
      cases found : find? (c :: u) with
      | none => exact ih (Nat.zero_le _)
      | some marker =>
        have within : marker.whole.length - 1 ≤ u.length :=
          Nat.sub_le_of_le_add (finds.leads found).length_le
        exact congrArg (marker :: ·) (ih within)

/-- **What is found in a text** is what is found in its lines of prose. -/
theorem FindsInLine.occurrencesFrom_eq_flatMap (finds : FindsInLine find?) (text : String) :
    occurrencesFrom find? 0 text.toList = (proseLines text).flatMap (occurrencesFrom find? 0) := by
  refine Text.eq_flatMap_proseLines rfl (fun u => ?_) (fun u rest => ?_) text
  · obtain ⟨-, front, back, blank, blank', split⟩ := (Text.trimmed_eq_iff (s := u)).1 rfl
    have nothing : occurrencesFrom find? 0 back = [] := by
      rw [← List.append_nil back, finds.occurrencesFrom_blank_append blank', occurrencesFrom_nil]
    calc occurrencesFrom find? 0 u
        = occurrencesFrom find? 0 (front ++ (trimmed u ++ back)) := by rw [← split]
      _ = occurrencesFrom find? 0 (trimmed u ++ back) := finds.occurrencesFrom_blank_append blank _
      _ = occurrencesFrom find? 0 (trimmed u) ++ occurrencesFrom find? 0 back :=
        finds.occurrencesFrom_append (.text blank') (Nat.zero_le _)
      _ = occurrencesFrom find? 0 (trimmed u) := by rw [nothing, List.append_nil]
  · calc occurrencesFrom find? 0 (u ++ '\n' :: rest)
        = occurrencesFrom find? 0 u ++ occurrencesFrom find? 0 ('\n' :: rest) :=
        finds.occurrencesFrom_append (Text.lineEnd_lineFeed rest) (Nat.zero_le _)
      _ = occurrencesFrom find? 0 u ++ occurrencesFrom find? 0 rest := by
        rw [← List.singleton_append, finds.occurrencesFrom_blank_append (by decide)]

end Finders

/-! ### Markers of rules -/

theorem slash_of_mem_leads {concern : Concern} {lead : List Char} (member : lead ∈ leads concern) :
    ∃ rest, lead = '/' :: rest ∧ '/' ∉ rest ∧ '\n' ∉ lead := by
  have all : ∀ lead ∈ leads concern, lead = '/' :: lead.tail ∧ '/' ∉ lead.tail ∧ '\n' ∉ lead := by
    cases concern <;> decide
  exact ⟨_, all lead member⟩

/-- A marker is found only where a slash is. -/
theorem head?_of_occurrence? {rules : Rules} {concern : Concern} {s : List Char} {marker : Occurrence}
    (found : rules.occurrence? concern s = some marker) : s.head? = some '/' := by
  obtain ⟨lead, member, found⟩ := List.exists_of_findSome?_eq_some found
  obtain ⟨rest, leads, -⟩ := Option.bind_eq_some_iff.1 found
  obtain rfl := Text.following?_eq_some_iff.1 leads
  obtain ⟨more, rfl, -⟩ := slash_of_mem_leads member
  rfl

theorem occurrenceAfter?_eq_map (rules : Rules) (concern : Concern) (s lead : List Char) :
    rules.occurrenceAfter? concern s lead =
      (introduced lead (rules.value? concern) s).map fun whole => ⟨whole, whole.drop lead.length⟩ := by
  rw [Rules.occurrenceAfter?, introduced, Option.map_bind]
  congr 1
  funext rest
  rw [Function.comp_apply, Option.map_map]
  congr 1
  funext value
  rw [Function.comp_apply, List.drop_left]

/-- The concerns whose values lie within a line. -/
def concernsInLine : List Concern := [.colour, .effect, .pointOfView]

theorem mem_concernsInLine_iff {concern : Concern} :
    concern ∈ concernsInLine ↔ concern = .colour ∨ concern = .effect ∨ concern = .pointOfView := by
  simp only [concernsInLine, List.mem_cons, List.not_mem_nil, or_false]

section Made

variable {vocabulary : Vocabulary} {thresholds : Thresholds} {rules : Rules} {concern : Concern}

theorem staysInLine_value? (made : Rules.ofVocabulary vocabulary thresholds = .ok rules)
    (inLine : concern ∈ concernsInLine)
    (feed : ∀ word, vocabulary.Names concern word → '\n' ∉ word.toList) :
    Form.StaysInLine (rules.value? concern) := by
  have words : ∀ word ∈ rules.wordsFor concern, word.toList ≠ [] ∧ WithinLine word.toList := by
    intro word member
    have names := (mem_wordsFor_iff made).1 member
    exact ⟨names.toList_ne_nil, feed word names, names.bare.ending⟩
  rcases mem_concernsInLine_iff.1 inLine with rfl | rfl | rfl
  · exact (staysInLine_word? words).or (staysInLine_hexColour?.introduced (by decide))
  · exact staysInLine_word? words
  · exact staysInLine_run? fun c => Text.isBlank_of_isWordChar

theorem findsInLine (made : Rules.ofVocabulary vocabulary thresholds = .ok rules)
    (inLine : concern ∈ concernsInLine)
    (feed : ∀ word, vocabulary.Names concern word → '\n' ∉ word.toList) :
    FindsInLine (rules.occurrence? concern) := by
  obtain ⟨lead, only⟩ : ∃ lead, leads concern = [lead] := by
    rcases mem_concernsInLine_iff.1 inLine with rfl | rfl | rfl <;> exact ⟨_, rfl⟩
  have member : lead ∈ leads concern := only ▸ List.mem_cons_self
  obtain ⟨-, -, -, feed'⟩ := slash_of_mem_leads member
  have stays := (staysInLine_value? made inLine feed).introduced feed'
  have found_eq : ∀ s, rules.occurrence? concern s = _ := fun s =>
    (occurrence?_eq_of_leads rules only s).trans (occurrenceAfter?_eq_map rules concern s _)
  refine ⟨fun found => ?_, head?_of_occurrence?, fun alike => ?_⟩
  · rw [found_eq] at found
    obtain ⟨whole, inner, rfl⟩ := Option.map_eq_some_iff.1 found
    exact (stays.found inner).1
  · rw [found_eq, found_eq, stays.alike alike]

end Made

/-! ### Counting values -/

theorem le_foldr_max {α : Type} (f : α → Nat) {a : α} :
    ∀ {l : List α}, a ∈ l → f a ≤ l.foldr (fun b most => max (f b) most) 0
  | b :: l, member => by
    rcases List.mem_cons.1 member with rfl | member
    · exact Nat.le_max_left _ _
    · exact (le_foldr_max f member).trans (Nat.le_max_right _ _)

theorem foldr_max_eq {α : Type} (f : α → Nat) :
    ∀ l : List α, l.foldr (fun b most => max (f b) most) 0 = 0 ∨
      ∃ a, f a = l.foldr (fun b most => max (f b) most) 0
  | [] => .inl rfl
  | b :: l => by
    rw [List.foldr_cons]
    rcases Nat.le_total (f b) (l.foldr (fun b most => max (f b) most) 0) with less | more
    · rw [Nat.max_eq_right less]
      exact foldr_max_eq f l
    · rw [Nat.max_eq_left more]
      exact .inr ⟨b, rfl⟩

/-- **The most frequent value** occurs as often as some value does, and none occurs more often. -/
theorem isGreatest_mostFrequent (values : List (List Char)) :
    IsGreatest (Set.range fun value => values.count value) (mostFrequent values) := by
  have bound : ∀ value, values.count value ≤ mostFrequent values := by
    intro value
    by_cases member : value ∈ values
    · exact le_foldr_max (fun value => values.count value) member
    · rw [List.count_eq_zero_of_not_mem member]
      exact Nat.zero_le _
  constructor
  · rcases foldr_max_eq (fun value => values.count value) values with none | attained
    · -- nothing occurs at all
      exact ⟨[], (Nat.le_zero.1 ((bound []).trans_eq none)).trans none.symm⟩
    · exact attained
  · rintro _ ⟨value, rfl⟩
    exact bound value

/-- The values of the markers in a text. -/
def Rules.valuesIn (rules : Rules) (concern : Concern) (s : List Char) : List (List Char) :=
  (rules.occurrences concern s).map (·.value)

/-- How often a value occurs in the lines of prose, counted in each of them. -/
def Rules.lineCount (rules : Rules) (concern : Concern) (text : String) (value : List Char) : Nat :=
  ((proseLines text).map fun line => (rules.valuesIn concern line).count value).sum

section Made

variable {vocabulary : Vocabulary} {thresholds : Thresholds} {rules : Rules} {concern : Concern}

/-- **Markers and their overuse, line by line.**  Of a colour, an effect or a point of view the whole text
has the markers that its lines of prose have.  These are the lines that are not blank, each trimmed, and it
is their markers that have to be valid.  So each value occurs as often as it does when the lines are
counted one by one, and a text overuses a marker when it does by that count. -/
theorem overuse_counted_by_lines (made : Rules.ofVocabulary vocabulary thresholds = .ok rules)
    (inLine : concern ∈ concernsInLine)
    (feed : ∀ word, vocabulary.Names concern word → '\n' ∉ word.toList) (text : String) :
    proseLines text = ((text.toList.splitOn '\n').filter fun line => !allBlank line).map trimmed ∧
      rules.occurrences concern text.toList = (proseLines text).flatMap (rules.occurrences concern) ∧
      (rules.linesValid concern text = true ↔
        ∀ line ∈ proseLines text, rules.lineValid concern line = true) ∧
      (∀ value, (rules.valuesIn concern text.toList).count value = rules.lineCount concern text value) ∧
      (rules.overuses concern text = true ↔
        ∃ limit mostUsed, rules.limit? concern = some limit ∧
          IsGreatest (Set.range (rules.lineCount concern text)) mostUsed ∧
          rules.thresholds.minLines < (proseLines text).length ∧
          limit < Float.ofNat mostUsed / Float.ofNat (proseLines text).length) := by
  have same := (findsInLine made inLine feed).occurrencesFrom_eq_flatMap text
  have counted : ∀ value,
      (rules.valuesIn concern text.toList).count value = rules.lineCount concern text value := by
    intro value
    rw [Rules.valuesIn, Rules.occurrences, same, List.map_flatMap, List.count_flatMap]
    rfl
  have greatest : IsGreatest (Set.range (rules.lineCount concern text))
      (mostFrequent (rules.valuesIn concern text.toList)) := by
    rw [← funext counted]
    exact isGreatest_mostFrequent _
  refine ⟨Text.proseLines_eq_splitOn text, same, List.all_eq_true, counted, ?_⟩
  rw [Rules.overuses]
  cases rules.limit? concern with
  | none => exact ⟨fun overused => (by cases overused), fun ⟨_, _, limited, _⟩ => (by cases limited)⟩
  | some limit =>
    simp only [Bool.and_eq_true, decide_eq_true_eq]
    constructor
    · intro overused
      exact ⟨limit, _, rfl, greatest, overused⟩
    · rintro ⟨_, mostUsed, limited, greatest', overused⟩
      cases limited
      rw [greatest'.unique greatest] at overused
      exact overused

theorem tealMarkers_counted_by_lines :
    Rules.ofVocabulary stemsAndDots {} = .ok stemsAndDotsRules ∧ Concern.colour ∈ concernsInLine ∧
      (∀ word, stemsAndDots.Names .colour word → '\n' ∉ word.toList) ∧
      (proseLines "/teal \r\n/colour #fff\n\n then /teal").flatMap
          (stemsAndDotsRules.occurrences .colour) =
        [⟨"/teal".toList, "teal".toList⟩, ⟨"/colour #fff".toList, "colour #fff".toList⟩,
          ⟨"/teal".toList, "teal".toList⟩] ∧
      stemsAndDotsRules.lineCount .colour "/teal \r\n/colour #fff\n\n then /teal" "teal".toList = 2 := by
  have inLine : Concern.colour ∈ concernsInLine := by decide
  have feed : ∀ word, stemsAndDots.Names .colour word → '\n' ∉ word.toList := by
    rintro word ⟨-, text, member, rfl⟩
    obtain rfl := List.mem_singleton.1 member
    decide
  obtain ⟨-, same, -, counted, -⟩ := overuse_counted_by_lines ofVocabulary_stemsAndDots inLine feed
    "/teal \r\n/colour #fff\n\n then /teal"
  refine ⟨ofVocabulary_stemsAndDots, inLine, feed, ?_, ?_⟩
  · rw [← same]
    decide +kernel
  · rw [← counted]
    decide +kernel

/-- For a pace the two ways differ. -/
example : stemsAndDotsRules.occurrences .pace "/speed 80\nms".toList ≠
    (proseLines "/speed 80\nms").flatMap (stemsAndDotsRules.occurrences .pace) := by decide +kernel

end Made

end Gamebook.Marker
