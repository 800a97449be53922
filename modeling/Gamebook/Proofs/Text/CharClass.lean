import Gamebook.Decimal.Numeral
import Gamebook.Text.Blank
import Gamebook.Text.DecimalDigit
import Gamebook.Text.WordChar
import Mathlib.Data.List.Basic
import Mathlib.Tactic.SplitIfs

/-!
# Classes without a common character

A value is found in a text by classes of characters, and where it ends is clear because the classes have
no character in common: a blank is neither a digit nor a character of a name.  The classes are
tables of ranges, so that two of them are apart when every range of the one is apart from every range of
the other (`inRanges_eq_false_of_apart`).

The longest run of a class at the start of a text is known by where it stops
(`takeWhile_append_of_stops`).
-/

namespace Gamebook.Text

/-! ### Ranges -/

/-- Every range of the one table lies below or above every range of the other. -/
def Apart (ranges ranges' : List (Nat × Nat)) : Prop :=
  ∀ range ∈ ranges, ∀ range' ∈ ranges', range.2 < range'.1 ∨ range'.2 < range.1

instance (ranges ranges' : List (Nat × Nat)) : Decidable (Apart ranges ranges') :=
  inferInstanceAs (Decidable (∀ range ∈ ranges, ∀ range' ∈ ranges', _))

/-- **Tables that are apart** have no character in common. -/
theorem inRanges_eq_false_of_apart {ranges ranges' : List (Nat × Nat)} (apart : Apart ranges ranges')
    {c : Char} (isIn : inRanges ranges c = true) : inRanges ranges' c = false := by
  obtain ⟨range, member, within⟩ := List.any_eq_true.1 isIn
  refine List.any_eq_false.2 fun range' member' within' => ?_
  rw [Bool.and_eq_true, decide_eq_true_eq, decide_eq_true_eq] at within within'
  rcases apart range member range' member' with below | above
  · omega
  · omega

theorem isDecimalDigit_of_isBlank {c : Char} (blank : isBlank c = true) : isDecimalDigit c = false :=
  inRanges_eq_false_of_apart (by decide +kernel) blank

theorem isBlank_of_isWordChar {c : Char} (word : isWordChar c = true) : isBlank c = false :=
  inRanges_eq_false_of_apart (by decide +kernel) word

/-! ### Hexadecimal digits -/

/-- The hexadecimal digits. -/
def hexDigitRanges : List (Nat × Nat) := [(0x30, 0x39), (0x41, 0x46), (0x61, 0x66)]

theorem isDigit_sixteen_iff {c : Char} :
    Numeral.isDigit 16 c = true ↔ inRanges hexDigitRanges c = true := by
  have le_iff : ∀ d e : Char, d ≤ e ↔ d.toNat ≤ e.toNat := fun _ _ => Iff.rfl
  have value : Numeral.isDigit 16 c = true ↔ ∃ n, Numeral.digitValue c = some n ∧ n < 16 := by
    rw [Numeral.isDigit]
    cases Numeral.digitValue c <;> simp
  rw [value, Numeral.digitValue]
  simp only [hexDigitRanges, inRanges_cons, inRanges_nil, le_iff, Bool.or_eq_true, Bool.and_eq_true,
    decide_eq_true_eq, Char.reduceToNat]
  split_ifs with decimal lower upper
  · exact ⟨fun _ => .inl decimal, fun _ => ⟨_, rfl, by omega⟩⟩
  · exact ⟨fun _ => .inr (.inr (.inl lower)), fun _ => ⟨_, rfl, by omega⟩⟩
  · exact ⟨fun _ => .inr (.inl upper), fun _ => ⟨_, rfl, by omega⟩⟩
  · simp [decimal, lower, upper]

theorem isBlank_of_isDigit_sixteen {c : Char} (digit : Numeral.isDigit 16 c = true) :
    isBlank c = false :=
  inRanges_eq_false_of_apart (by decide) (isDigit_sixteen_iff.1 digit)

/-! ### Runs -/

/-- **A run ends where its class does.** -/
theorem takeWhile_append_of_stops {inClass : Char → Bool} {run rest : List Char}
    (all : ∀ c ∈ run, inClass c = true) (stops : ∀ c ∈ rest.head?, inClass c = false) :
    (run ++ rest).takeWhile inClass = run ∧ (run ++ rest).dropWhile inClass = rest := by
  rw [List.takeWhile_append_of_pos all, List.dropWhile_append_of_pos all]
  cases rest with
  | nil => exact ⟨List.append_nil _, rfl⟩
  | cons c rest =>
    rw [List.takeWhile_cons_of_neg (by rw [stops c rfl]; decide),
      List.dropWhile_cons_of_neg (by rw [stops c rfl]; decide)]
    exact ⟨List.append_nil _, rfl⟩

end Gamebook.Text
