import Gamebook.Marker.Form
import Gamebook.Proofs.Text.CharClass
import Gamebook.Proofs.Text.Trimming
import Mathlib.Data.List.Infix

/-!
# What a form finds

A form is given by a function that finds a value at the start of a text.  This file says what it finds
by the texts that are values, and by nothing that depends on how they are looked for.

A duration can be found in one way only: its digits end where the blank or the unit stands, since neither
is a digit.  So it is enough that a duration stands there (`duration?_eq_some_iff`).  A colour in digits
can be found in two ways where six digits stand, and the longer is taken (`hexColour?_eq_some_iff`).
-/

namespace Gamebook.Marker

/-! ### Values -/

/-- Decimal digits, at least one, then at most one blank, then the unit. -/
def IsDuration (s : List Char) : Prop :=
  ∃ digits gap, s = digits ++ (gap ++ ['m', 's']) ∧ digits ≠ [] ∧
    (∀ c ∈ digits, Text.isDecimalDigit c = true) ∧ gap.length ≤ 1 ∧ ∀ c ∈ gap, Text.isBlank c = true

/-- A hash sign and so many hexadecimal digits. -/
def IsHexColour (n : Nat) (s : List Char) : Prop :=
  ∃ digits, s = '#' :: digits ∧ digits.length = n ∧ ∀ c ∈ digits, Numeral.isDigit 16 c = true

/-- Word characters, at least one. -/
def IsName (s : List Char) : Prop := s ≠ [] ∧ ∀ c ∈ s, Text.isWordChar c = true

theorem IsDuration.endsBare {s : List Char} (duration : IsDuration s) : Text.EndsBare s := by
  obtain ⟨digits, gap, rfl, -⟩ := duration
  have unit : Text.EndsBare ['m', 's'] := Text.endsBare_of_forall
    (List.forall_mem_cons.2 ⟨by decide, List.forall_mem_singleton.2 (by decide)⟩)
  exact (unit.append (List.cons_ne_nil _ _) gap).append (by simp) digits

theorem IsHexColour.length_eq {n : Nat} {s : List Char} (colour : IsHexColour n s) :
    s.length = n + 1 := by
  obtain ⟨digits, rfl, rfl, -⟩ := colour
  rfl

theorem IsHexColour.endsBare {n : Nat} {s : List Char} (colour : IsHexColour n s) :
    Text.EndsBare s := by
  obtain ⟨digits, rfl, -, all⟩ := colour
  refine Text.endsBare_of_forall (List.forall_mem_cons.2 ⟨by decide, fun c member => ?_⟩)
  exact Text.isBlank_of_isDigit_sixteen (all c member)

theorem IsName.endsBare {s : List Char} (name : IsName s) : Text.EndsBare s :=
  Text.endsBare_of_forall fun c member => Text.isBlank_of_isWordChar (name.2 c member)

/-! ### Leads and runs -/

theorem introduced_eq_some_iff {lead s w : List Char} {form : Form} :
    introduced lead form s = some w ↔
      ∃ rest value, s = lead ++ rest ∧ form rest = some value ∧ w = lead ++ value := by
  rw [introduced, Option.bind_eq_some_iff]
  simp only [Text.following?_eq_some_iff, Option.map_eq_some_iff]
  constructor
  · rintro ⟨rest, split, value, found, rfl⟩
    exact ⟨rest, value, split, found, rfl⟩
  · rintro ⟨rest, value, split, found, rfl⟩
    exact ⟨rest, split, value, found, rfl⟩

/-- A run is all of the class that the text starts with, if that is anything. -/
theorem run?_eq_some_iff {inClass : Char → Bool} {s w : List Char} :
    run? inClass s = some w ↔ w ≠ [] ∧ s.takeWhile inClass = w := by
  rw [run?]
  cases s.takeWhile inClass with
  | nil =>
    refine ⟨fun found => (by cases found), ?_⟩
    rintro ⟨given, rfl⟩
    exact absurd rfl given
  | cons c rest =>
    rw [Option.some.injEq]
    refine ⟨?_, And.right⟩
    rintro rfl
    exact ⟨List.cons_ne_nil _ _, rfl⟩

/-! ### Durations -/

theorem unit?_eq_some_iff {s w : List Char} :
    unit? s = some w ↔ w <+: s ∧
      ∃ gap, w = gap ++ ['m', 's'] ∧ gap.length ≤ 1 ∧ ∀ c ∈ gap, Text.isBlank c = true := by
  constructor
  · intro found
    rw [unit?.eq_def] at found
    split at found
    · cases found
      exact ⟨⟨_, rfl⟩, [], rfl, Nat.zero_le _, List.forall_mem_nil _⟩
    · next c _ =>
      split at found
      · next blank =>
        cases found
        exact ⟨⟨_, rfl⟩, [c], rfl, Nat.le_refl _, List.forall_mem_singleton.2 blank⟩
      · cases found
    · cases found
  · rintro ⟨⟨rest, rfl⟩, gap, rfl, short, blank⟩
    rcases gap with _ | ⟨c, _ | ⟨d, gap⟩⟩
    · rfl
    · show unit? (c :: 'm' :: 's' :: rest) = _
      rw [unit?, if_pos (blank c List.mem_cons_self)]
      rfl
    · exact absurd short (by simp)

/-- **A duration is found** where one stands. -/
theorem duration?_eq_some_iff {s w : List Char} :
    duration? s = some w ↔ w <+: s ∧ IsDuration w := by
  rw [duration?, Option.bind_eq_some_iff]
  simp only [run?_eq_some_iff, Option.map_eq_some_iff, unit?_eq_some_iff]
  constructor
  · rintro ⟨digits, ⟨given, taken⟩, _, ⟨⟨rest, left⟩, gap, rfl, short, blank⟩, rfl⟩
    refine ⟨⟨rest, ?_⟩, digits, gap, rfl, given, ?_, short, blank⟩
    · rw [List.append_assoc, left, ← taken, List.takeWhile_append_dropWhile]
    · exact taken ▸ List.all_eq_true.1 List.all_takeWhile
  · rintro ⟨⟨rest, rfl⟩, digits, gap, rfl, given, all, short, blank⟩
    -- neither a blank nor the unit begins with a digit
    have stops : ∀ c ∈ (gap ++ ['m', 's'] ++ rest).head?, Text.isDecimalDigit c = false := by
      intro c first
      cases gap with
      | nil => cases first; decide
      | cons d gap =>
        cases first
        exact Text.isDecimalDigit_of_isBlank (blank _ List.mem_cons_self)
    obtain ⟨taken, left⟩ := Text.takeWhile_append_of_stops all stops
    rw [List.append_assoc, taken, left]
    exact ⟨digits, ⟨given, rfl⟩, _, ⟨⟨rest, rfl⟩, gap, rfl, short, blank⟩, rfl⟩

theorem accepts_duration?_iff {s : List Char} : Form.accepts duration? s = true ↔ IsDuration s := by
  rw [Form.accepts, beq_iff_eq, duration?_eq_some_iff]
  exact and_iff_right List.prefix_rfl

/-! ### Colours in digits -/

theorem hexDigits?_eq_some_iff {n : Nat} {s w : List Char} :
    hexDigits? n s = some w ↔
      w <+: s ∧ w.length = n ∧ ∀ c ∈ w, Numeral.isDigit 16 c = true := by
  rw [hexDigits?]
  constructor
  · intro found
    split at found
    · next digits =>
      cases found
      exact ⟨List.take_prefix n s, digits.1, List.all_eq_true.1 digits.2⟩
    · cases found
  · rintro ⟨⟨rest, rfl⟩, rfl, all⟩
    rw [List.take_left, if_pos ⟨rfl, List.all_eq_true.2 all⟩]

theorem exists_hexDigits?_iff {n : Nat} {s w : List Char} :
    (∃ digits, hexDigits? n s = some digits ∧ '#' :: digits = w) ↔
      w <+: '#' :: s ∧ IsHexColour n w := by
  simp only [hexDigits?_eq_some_iff]
  constructor
  · rintro ⟨digits, ⟨leads, long, all⟩, rfl⟩
    exact ⟨List.cons_prefix_cons.2 ⟨rfl, leads⟩, digits, rfl, long, all⟩
  · rintro ⟨leads, digits, rfl, long, all⟩
    exact ⟨digits, ⟨(List.cons_prefix_cons.1 leads).2, long, all⟩, rfl⟩

/-- **Of the colours in digits** that a text starts with, the one of six digits is found, and one of
three only where there is none of six. -/
theorem hexColour?_eq_some_iff {s w : List Char} :
    hexColour? s = some w ↔
      w <+: s ∧
        (IsHexColour 6 w ∨ IsHexColour 3 w ∧ ∀ longer, longer <+: s → ¬ IsHexColour 6 longer) := by
  by_cases hash : ∃ t, s = '#' :: t
  · obtain ⟨t, rfl⟩ := hash
    have six_iff : hexDigits? 6 t = none ↔ ∀ longer, longer <+: '#' :: t → ¬ IsHexColour 6 longer := by
      rw [Option.eq_none_iff_forall_ne_some]
      constructor
      · intro none longer leads colour
        obtain ⟨digits, found, -⟩ := exists_hexDigits?_iff.2 ⟨leads, colour⟩
        exact none digits found
      · intro none digits found
        obtain ⟨leads, colour⟩ := exists_hexDigits?_iff.1 ⟨digits, found, rfl⟩
        exact none _ leads colour
    rw [hexColour?, Option.map_eq_some_iff]
    simp only [Option.or_eq_some_iff, or_and_right, exists_or, and_assoc, exists_and_left]
    rw [exists_hexDigits?_iff, exists_hexDigits?_iff, six_iff]
    tauto
  · have none : hexColour? s = none := by
      rw [hexColour?.eq_def]
      split
      · exact absurd ⟨_, rfl⟩ hash
      · rfl
    rw [none]
    refine ⟨fun found => (by cases found), ?_⟩
    rintro ⟨⟨rest, rfl⟩, ⟨digits, rfl, -⟩ | ⟨⟨digits, rfl, -⟩, -⟩⟩
    · exact absurd ⟨_, rfl⟩ hash
    · exact absurd ⟨_, rfl⟩ hash

theorem accepts_hexColour?_iff {s : List Char} :
    Form.accepts hexColour? s = true ↔ IsHexColour 6 s ∨ IsHexColour 3 s := by
  rw [Form.accepts, beq_iff_eq, hexColour?_eq_some_iff, and_iff_right List.prefix_rfl]
  refine or_congr_right (and_iff_left_of_imp ?_)
  -- a text of three digits is too short to start with six
  intro three longer leads six
  have short := leads.length_le
  rw [six.length_eq, three.length_eq] at short
  exact absurd short (by decide)

end Gamebook.Marker
