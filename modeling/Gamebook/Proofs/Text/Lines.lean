import Gamebook.Proofs.Text.Trimming
import Mathlib.Data.List.Infix

/-!
# Lines and what lies within them

A line feed ends a line, and of the line only what is left when it is trimmed counts.  So what is asked
of a text line by line does not depend on blanks at the ends of its lines, a carriage return in front of a
line feed among them.  This file says when a question about a text may be answered line by line
(`eq_flatMap_proseLines`): when it may be answered in front of a line feed and behind it, and when blanks
around a text do not matter to it.

## Within a line

A text lies within a line when it has no line feed and does not end with a blank (`WithinLine`).  Whether
a text begins with such a one is seen without what comes after its first line, blanks at the end of that
line included (`WithinLine.prefix_append_iff`).
-/

namespace Gamebook.Text

/-! ### Lines -/

theorem lines_cons {c : Char} {rest : List Char} (feed : c ≠ '\n')
    (ended : c = '\r' → rest.head? ≠ some '\n') :
    lines (c :: rest) = (c :: (lines rest).headD []) :: (lines rest).tail := by
  rw [lines.eq_def]
  split
  · next none => cases none
  · next first => exact absurd (List.cons.inj first).1 feed
  · next first =>
    obtain ⟨rfl, rfl⟩ := List.cons.inj first
    exact absurd rfl (ended rfl)
  · next same =>
    obtain ⟨rfl, rfl⟩ := List.cons.inj same
    cases lines rest <;> rfl

/-- A text without a line feed is one line. -/
theorem lines_eq_singleton : ∀ {s : List Char}, '\n' ∉ s → s ≠ [] → lines s = [s]
  | [], _, given => absurd rfl given
  | [c], feed, _ => by
    rw [lines_cons (Ne.symm (List.ne_of_not_mem_cons feed)) fun _ => by simp]
    rfl
  | c :: d :: rest, feed, _ => by
    have more := List.not_mem_of_not_mem_cons feed
    rw [lines_cons (Ne.symm (List.ne_of_not_mem_cons feed)) fun _ first => more (List.mem_of_head? first),
      lines_eq_singleton more (List.cons_ne_nil _ _)]
    rfl

/-- Up to a line feed there is one line, which is without a carriage return in front of the line feed. -/
theorem lines_append_lineFeed (rest : List Char) :
    ∀ {u : List Char}, '\n' ∉ u → ∃ line, lines (u ++ '\n' :: rest) = line :: lines rest ∧
      (u = line ∨ u = line ++ ['\r'])
  | [], _ => ⟨[], lines_lineFeed rest, .inl rfl⟩
  | c :: u, feed => by
    by_cases lone : c = '\r' ∧ u = []
    · obtain ⟨rfl, rfl⟩ := lone
      exact ⟨[], by simp [lines], .inr rfl⟩
    · have more := List.not_mem_of_not_mem_cons feed
      obtain ⟨line, split, same⟩ := lines_append_lineFeed rest more
      have ended : c = '\r' → (u ++ '\n' :: rest).head? ≠ some '\n' := by
        intro carriage first
        obtain ⟨d, u, rfl⟩ := List.exists_cons_of_ne_nil fun none => lone ⟨carriage, none⟩
        exact more (List.mem_of_head? (List.head?_append_of_ne_nil _ (List.cons_ne_nil _ _) ▸ first))
      refine ⟨c :: line, ?_, ?_⟩
      · rw [List.cons_append, lines_cons (Ne.symm (List.ne_of_not_mem_cons feed)) ended, split]
        rfl
      · exact same.imp (congrArg (c :: ·)) (congrArg (c :: ·))

/-- A carriage return at the end of a line is trimmed. -/
theorem trimmed_eq_of_eq_or_carriage {u line : List Char} (same : u = line ∨ u = line ++ ['\r']) :
    trimmed u = trimmed line := by
  rcases same with rfl | rfl
  · rfl
  · exact trimmed_append_of_allBlank (by decide) line

/-- A text is a last line, or it is a line with a line feed and a text. -/
theorem lines_induction {motive : List Char → Prop} (last : ∀ u, '\n' ∉ u → motive u)
    (ended : ∀ u rest, '\n' ∉ u → motive rest → motive (u ++ '\n' :: rest)) (s : List Char) :
    motive s := by
  by_cases feed : '\n' ∈ s
  · obtain ⟨u, rest, split, first⟩ := List.eq_append_cons_of_mem feed
    have shorter : rest.length < s.length := by
      rw [split, List.length_append, List.length_cons]
      omega
    rw [split]
    exact ended u rest first (lines_induction last ended rest)
  · exact last s feed
termination_by s.length

/-- The characters of a line are characters of the text. -/
theorem subset_of_mem_lines {s line : List Char} (member : line ∈ lines s) : line ⊆ s := by
  induction s using lines_induction with
  | last u feed =>
    cases u with
    | nil => cases member
    | cons c u =>
      rw [lines_eq_singleton feed (List.cons_ne_nil _ _), List.mem_singleton] at member
      exact member ▸ List.Subset.refl _
  | ended u rest feed ih =>
    obtain ⟨first, split, same⟩ := lines_append_lineFeed rest feed
    rw [split] at member
    rcases List.mem_cons.1 member with rfl | member
    · rcases same with rfl | rfl
      · exact List.subset_append_left _ _
      · exact List.subset_append_of_subset_left _ (List.subset_append_left _ _)
    · exact List.subset_append_of_subset_right _ (List.subset_cons_of_subset _ (ih member))

/-! ### Lines of prose -/

/-- **The lines of prose** are the parts of the text between line feeds that are not blank, each trimmed.
A carriage return in front of a line feed is trimmed like other blanks. -/
theorem proseLines_eq_splitOn (text : String) :
    proseLines text = ((text.toList.splitOn '\n').filter fun line => !allBlank line).map trimmed := by
  have visible : ((fun line : List Char => !line.isEmpty) ∘ trimmed) = fun line => !allBlank line := by
    funext line
    have same : (trimmed line).isEmpty = allBlank line := by
      rw [Bool.eq_iff_iff, List.isEmpty_iff, trimmed_eq_nil_iff]
    exact congrArg Bool.not same
  rw [proseLines, ← visible, ← List.filter_map]
  induction text.toList using lines_induction with
  | last u feed =>
    rw [List.splitOn_eq_singleton feed]
    cases u with
    | nil => rfl
    | cons c u => rw [lines_eq_singleton feed (List.cons_ne_nil _ _)]
  | ended u rest feed ih =>
    obtain ⟨line, split, same⟩ := lines_append_lineFeed rest feed
    have trims : trimmed u = trimmed line := trimmed_eq_of_eq_or_carriage same
    rw [split, List.splitOn_append_cons_self, List.splitOn_eq_singleton feed, List.map_cons,
      List.singleton_append, List.map_cons, List.filter_cons, List.filter_cons, ih, trims]

/-- **What is asked of a text line by line.**  If blanks around a text do not matter, and a line feed
parts what is in front of it from what is behind, then it is enough to ask the lines of prose. -/
theorem eq_flatMap_proseLines {β : Type} {f : List Char → List β} (none : f [] = [])
    (around : ∀ u, f u = f (trimmed u))
    (parted : ∀ u rest, f (u ++ '\n' :: rest) = f u ++ f rest) (s : String) :
    f s.toList = (proseLines s).flatMap f := by
  have skipped : ∀ all : List (List Char),
      (all.filter fun line => !line.isEmpty).flatMap f = all.flatMap f := by
    intro all
    induction all with
    | nil => rfl
    | cons line more ih =>
      cases line with
      | nil => rw [List.filter_cons_of_neg (by simp), ih, List.flatMap_cons, none, List.nil_append]
      | cons c line => rw [List.filter_cons_of_pos (by simp), List.flatMap_cons, ih, List.flatMap_cons]
  rw [proseLines, skipped, List.flatMap_map]
  induction s.toList using lines_induction with
  | last u feed =>
    cases u with
    | nil => exact none
    | cons c u =>
      rw [lines_eq_singleton feed (List.cons_ne_nil _ _), List.flatMap_singleton, ← around]
  | ended u rest feed ih =>
    obtain ⟨line, split, same⟩ := lines_append_lineFeed rest feed
    have trims : trimmed u = trimmed line := trimmed_eq_of_eq_or_carriage same
    rw [split, List.flatMap_cons, ← trims, ← around, parted, ih]

/-- A text on one line, without blanks at its ends, is its only line of prose. -/
theorem proseLines_eq_singleton {s : List Char} (feed : '\n' ∉ s) (bare : Bare s) (given : s ≠ []) :
    proseLines (String.ofList s) = [s] := by
  have same : trimmed s = s := trimmed_eq_iff.2 ⟨bare, [], [], rfl, rfl, (List.append_nil s).symm⟩
  rw [proseLines, String.toList_ofList, lines_eq_singleton feed given, List.map_singleton, same,
    List.filter_cons_of_pos (by simpa using given), List.filter_nil]

theorem trimmed_subset (s : List Char) : trimmed s ⊆ s := by
  obtain ⟨-, front, back, -, -, split⟩ := (trimmed_eq_iff (s := s)).1 rfl
  intro c member
  rw [split]
  exact List.mem_append_right _ (List.mem_append_left _ member)

/-- A first character that is not blank stays the first. -/
theorem exists_trimmed_cons {c : Char} (bare : isBlank c = false) (s : List Char) :
    ∃ rest, trimmed (c :: s) = c :: rest ∧ rest ⊆ s := by
  rw [trimmed, trimStart_cons_of_not_blank bare]
  obtain ⟨back, blank, split⟩ := exists_trimEnd_append (c :: s)
  cases trims : trimEnd (c :: s) with
  | nil =>
    rw [trims, List.nil_append] at split
    have first := List.all_eq_true.1 blank c (split ▸ List.mem_cons_self)
    rw [first] at bare
    cases bare
  | cons d rest =>
    rw [trims] at split
    obtain ⟨rfl, rfl⟩ := List.cons.inj split
    exact ⟨rest, rfl, List.subset_append_left _ _⟩

/-- The first character of a text stays the first of a line of prose, and the other lines are without
it. -/
theorem eq_cons_or_subset_of_mem_proseLines {c : Char} {s line : List Char} (bare : isBlank c = false)
    (prose : line ∈ proseLines (String.ofList (c :: s))) :
    (∃ rest, line = c :: rest ∧ rest ⊆ s) ∨ line ⊆ s := by
  have other : ∀ blank : Char, isBlank blank = true → c ≠ blank := by
    rintro blank isIn rfl
    rw [isIn] at bare
    cases bare
  obtain ⟨untrimmed, member, rfl⟩ := List.mem_map.1 (List.mem_filter.1 prose).1
  rw [String.toList_ofList,
    lines_cons (other '\n' (by decide)) fun carriage =>
      absurd carriage (other '\r' (by decide))] at member
  rcases List.mem_cons.1 member with rfl | member
  · obtain ⟨rest, trims, within⟩ := exists_trimmed_cons bare ((lines s).headD [])
    refine .inl ⟨rest, trims, List.Subset.trans within ?_⟩
    cases split : lines s with
    | nil => exact List.nil_subset _
    | cons line more =>
      have first : line ∈ lines s := by
        rw [split]
        exact List.mem_cons_self
      exact subset_of_mem_lines first
  · have within := subset_of_mem_lines (List.mem_of_mem_tail member)
    exact .inr (List.Subset.trans (trimmed_subset untrimmed) within)

/-! ### Within a line -/

/-- The text has no line feed, and it does not end with a blank. -/
structure WithinLine (w : List Char) : Prop where
  feed : '\n' ∉ w
  ending : EndsBare w

theorem withinLine_of_forall {w : List Char} (all : ∀ c ∈ w, isBlank c = false) : WithinLine w :=
  ⟨fun member => absurd (all _ member) (by decide), endsBare_of_forall all⟩

theorem WithinLine.append {w : List Char} (within : WithinLine w) (given : w ≠ []) {lead : List Char}
    (feed : '\n' ∉ lead) : WithinLine (lead ++ w) where
  feed member := (List.mem_append.1 member).elim feed within.feed
  ending := within.ending.append given lead

/-- A beginning of two parts is one of the first part, or it is the first part and a beginning of the
second. -/
theorem prefix_append_cases {w u tail : List Char} (leads : w <+: u ++ tail) :
    w <+: u ∨ ∃ t, t ≠ [] ∧ t <+: tail ∧ w = u ++ t := by
  rcases List.prefix_or_prefix_of_prefix leads (List.prefix_append u tail) with short | ⟨t, rfl⟩
  · exact .inl short
  · by_cases none : t = []
    · exact .inl (by rw [none, List.append_nil])
    · exact .inr ⟨t, none, (List.prefix_append_right_inj _).1 leads, rfl⟩

/-- Nothing but blanks comes before the next line, if there is one. -/
inductive LineEnd : List Char → Prop
  | text {back : List Char} (blank : allBlank back = true) : LineEnd back
  | line {back : List Char} (blank : allBlank back = true) (rest : List Char) :
      LineEnd (back ++ '\n' :: rest)

theorem lineEnd_lineFeed (rest : List Char) : LineEnd ('\n' :: rest) :=
  .line (show allBlank [] = true from rfl) rest

theorem LineEnd.isBlank_of_prefix {tail t : List Char} (ends : LineEnd tail) (leads : t <+: tail)
    (feed : '\n' ∉ t) : ∀ c ∈ t, isBlank c = true := by
  cases ends with
  | text blank => exact fun c member => List.all_eq_true.1 blank c (leads.subset member)
  | line blank rest =>
    rcases prefix_append_cases leads with within | ⟨more, given, leads', rfl⟩
    · exact fun c member => List.all_eq_true.1 blank c (within.subset member)
    · obtain ⟨d, more, rfl⟩ := List.exists_cons_of_ne_nil given
      obtain ⟨rfl, -⟩ := List.cons_prefix_cons.1 leads'
      exact absurd (List.mem_append_right _ List.mem_cons_self) feed

/-- **What lies within a line** is not made longer by what ends the line. -/
theorem WithinLine.prefix_append_iff {w u tail : List Char} (within : WithinLine w)
    (ends : LineEnd tail) : w <+: u ++ tail ↔ w <+: u := by
  refine ⟨fun leads => ?_, fun leads => leads.trans (List.prefix_append _ _)⟩
  rcases prefix_append_cases leads with short | ⟨t, given, leads', rfl⟩
  · exact short
  · -- what it has more would be blank up to its last character
    have last := List.getLast?_eq_some_getLast given
    have feed : '\n' ∉ t := fun member => within.feed (List.mem_append_right _ member)
    have blank := ends.isBlank_of_prefix leads' feed _ (List.getLast_mem given)
    have bare := within.ending (t.getLast given) (by
      rw [List.getLast?_append_of_ne_nil _ given, last]
      rfl)
    rw [blank] at bare
    cases bare

/-- The two texts begin alike as far as what lies within a line. -/
def AlikeInLine (s t : List Char) : Prop := ∀ w, WithinLine w → (w <+: s ↔ w <+: t)

theorem AlikeInLine.symm {s t : List Char} (alike : AlikeInLine s t) : AlikeInLine t s :=
  fun w within => (alike w within).symm

theorem alikeInLine_append {u tail : List Char} (ends : LineEnd tail) : AlikeInLine (u ++ tail) u :=
  fun _ within => within.prefix_append_iff ends

/-- Behind one beginning the texts are alike again. -/
theorem AlikeInLine.of_append {lead s t : List Char} (alike : AlikeInLine (lead ++ s) (lead ++ t))
    (feed : '\n' ∉ lead) : AlikeInLine s t := by
  intro w within
  by_cases given : w = []
  · rw [given]
    exact iff_of_true List.nil_prefix List.nil_prefix
  · have same := alike (lead ++ w) (within.append given feed)
    rwa [List.prefix_append_right_inj, List.prefix_append_right_inj] at same

/-- A run of characters that are not blank lies within a line. -/
theorem AlikeInLine.takeWhile_eq {s t : List Char} (alike : AlikeInLine s t) {inClass : Char → Bool}
    (bare : ∀ c, inClass c = true → isBlank c = false) : s.takeWhile inClass = t.takeWhile inClass := by
  have kept : ∀ {s t}, AlikeInLine s t → s.takeWhile inClass <+: t.takeWhile inClass := by
    intro s t alike
    have all : ∀ c ∈ s.takeWhile inClass, inClass c = true := List.all_eq_true.1 List.all_takeWhile
    obtain ⟨more, split⟩ := (alike _ (withinLine_of_forall fun c member => bare c (all c member))).1
      (List.takeWhile_prefix _)
    rw [← split, List.takeWhile_append_of_pos all]
    exact List.prefix_append _ _
  exact (kept alike).eq_of_length_le (kept alike.symm).length_le

end Gamebook.Text
