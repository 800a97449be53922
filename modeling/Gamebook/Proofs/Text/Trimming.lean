import Gamebook.Text.Blank
import Mathlib.Data.List.DropRight

/-!
# What is left of a trimmed text

Trimming takes blanks from one end and then from the other.  What is left is known without these two
steps: it is the one text without blanks at its ends that the text becomes by having blanks put around it
(`trimmed_eq_iff`).  So it does not matter how many blanks are there, nor at which end the trimming
begins.
-/

namespace Gamebook.Text

theorem allBlank_append (s t : List Char) : allBlank (s ++ t) = (allBlank s && allBlank t) :=
  List.all_append

/-- The text neither starts nor ends with a blank. -/
structure Bare (s : List Char) : Prop where
  start : ∀ c ∈ s.head?, isBlank c = false
  ending : ∀ c ∈ s.getLast?, isBlank c = false

/-- The text does not end with a blank. -/
def EndsBare (s : List Char) : Prop := ∀ c ∈ s.getLast?, isBlank c = false

theorem endsBare_of_forall {s : List Char} (all : ∀ c ∈ s, isBlank c = false) : EndsBare s :=
  fun c last => all c (List.mem_of_getLast? last)

theorem EndsBare.append {t : List Char} (bare : EndsBare t) (given : t ≠ []) (s : List Char) :
    EndsBare (s ++ t) := by
  intro c last
  rw [List.getLast?_append_of_ne_nil _ given] at last
  exact bare c last

/-! ### One end -/

theorem exists_trimStart_append (s : List Char) :
    ∃ front, allBlank front = true ∧ s = front ++ trimStart s :=
  ⟨s.takeWhile isBlank, List.all_takeWhile, List.takeWhile_append_dropWhile.symm⟩

theorem exists_trimEnd_append (s : List Char) :
    ∃ back, allBlank back = true ∧ s = trimEnd s ++ back :=
  ⟨s.rtakeWhile isBlank, List.all_eq_true.2 fun _ member => List.mem_rtakeWhile_imp member,
    List.rdropWhile_append_rtakeWhile.symm⟩

theorem isBlank_of_mem_head?_trimStart {s : List Char} {c : Char} (first : c ∈ (trimStart s).head?) :
    isBlank c = false := by
  have given : s.dropWhile isBlank ≠ [] := by
    intro empty
    rw [trimStart, empty] at first
    cases first
  have kept := List.head_dropWhile_not isBlank given
  rw [trimStart, List.head?_eq_some_head given, Option.mem_some_iff] at first
  exact first ▸ kept

theorem isBlank_of_mem_getLast?_trimEnd {s : List Char} {c : Char}
    (last : c ∈ (trimEnd s).getLast?) : isBlank c = false := by
  rw [trimEnd, List.getLast?_reverse] at last
  exact isBlank_of_mem_head?_trimStart last

theorem trimStart_append_of_allBlank {front : List Char} (blank : allBlank front = true)
    (s : List Char) : trimStart (front ++ s) = trimStart s :=
  List.dropWhile_append_of_pos (List.all_eq_true.1 blank)

theorem trimEnd_append_of_allBlank {back : List Char} (blank : allBlank back = true) (s : List Char) :
    trimEnd (s ++ back) = trimEnd s := by
  rw [trimEnd, trimEnd, List.reverse_append, List.dropWhile_append_of_pos]
  exact fun c member => List.all_eq_true.1 blank c (List.mem_reverse.1 member)

theorem trimStart_eq_self {s : List Char} (bare : ∀ c ∈ s.head?, isBlank c = false) :
    trimStart s = s := by
  cases s with
  | nil => rfl
  | cons c rest => exact trimStart_cons_of_not_blank (bare c rfl) rest

theorem trimEnd_eq_self {s : List Char} (bare : ∀ c ∈ s.getLast?, isBlank c = false) :
    trimEnd s = s := by
  have same : trimStart s.reverse = s.reverse :=
    trimStart_eq_self fun c first => bare c (by rwa [List.head?_reverse] at first)
  rw [trimEnd, ← trimStart, same, List.reverse_reverse]

theorem trimEnd_cons_of_not_blank {c : Char} (visible : isBlank c = false) (s : List Char) :
    trimEnd (c :: s) = c :: trimEnd s := by
  obtain ⟨back, blank, split⟩ := exists_trimEnd_append s
  have bare : EndsBare (c :: trimEnd s) := by
    cases left : trimEnd s with
    | nil => exact endsBare_of_forall (List.forall_mem_singleton.2 visible)
    | cons d rest =>
      have ends : EndsBare (trimEnd s) := fun _ last => isBlank_of_mem_getLast?_trimEnd last
      rw [left] at ends
      exact ends.append (List.cons_ne_nil d rest) [c]
  calc trimEnd (c :: s) = trimEnd ((c :: trimEnd s) ++ back) := by rw [List.cons_append, ← split]
    _ = trimEnd (c :: trimEnd s) := trimEnd_append_of_allBlank blank _
    _ = c :: trimEnd s := trimEnd_eq_self bare

/-! ### Both ends -/

theorem bare_trimmed (s : List Char) : Bare (trimmed s) where
  start c first := by
    -- what is trimmed at its end starts as before
    obtain ⟨back, -, split⟩ := exists_trimEnd_append (trimStart s)
    refine isBlank_of_mem_head?_trimStart (s := s) ?_
    rw [split, List.head?_append, show (trimEnd (trimStart s)).head? = some c from first]
    rfl
  ending _ last := isBlank_of_mem_getLast?_trimEnd last

/-- **The text that is left when another is trimmed** has no blanks at its ends, and there were only
blanks around it. -/
theorem trimmed_eq_iff {s t : List Char} :
    trimmed s = t ↔ Bare t ∧
      ∃ front back, allBlank front = true ∧ allBlank back = true ∧ s = front ++ (t ++ back) := by
  constructor
  · rintro rfl
    obtain ⟨front, blank, split⟩ := exists_trimStart_append s
    obtain ⟨back, blank', split'⟩ := exists_trimEnd_append (trimStart s)
    exact ⟨bare_trimmed s, front, back, blank, blank', by rw [trimmed, ← split', ← split]⟩
  · rintro ⟨bare, front, back, blank, blank', rfl⟩
    rw [trimmed, trimStart_append_of_allBlank blank]
    cases t with
    | nil => rw [List.nil_append, ← List.append_nil back, trimStart_append_of_allBlank blank',
        trimStart_nil, trimEnd_nil]
    | cons c rest =>
      rw [List.cons_append, trimStart_cons_of_not_blank (bare.start c rfl), ← List.cons_append,
        trimEnd_append_of_allBlank blank', trimEnd_eq_self bare.ending]

/-- Nothing is left of a text exactly when it is blank. -/
theorem trimmed_eq_nil_iff {s : List Char} : trimmed s = [] ↔ allBlank s = true := by
  rw [trimmed_eq_iff]
  constructor
  · rintro ⟨-, front, back, blank, blank', rfl⟩
    rw [List.nil_append, allBlank_append, blank, blank', Bool.and_self]
  · intro blank
    exact ⟨⟨nofun, nofun⟩, s, [], blank, rfl, (List.append_nil s).symm⟩

/-- Trimming one end leaves what trimming both does, and what was blank in front. -/
theorem trimmed_isSuffix_trimEnd (s : List Char) : trimmed s <:+ trimEnd s := by
  obtain ⟨bare, front, back, -, blank, split⟩ := (trimmed_eq_iff (s := s)).1 rfl
  by_cases none : trimmed s = []
  · rw [none]
    exact List.nil_suffix
  · have ends : EndsBare (front ++ trimmed s) := EndsBare.append bare.ending none front
    refine ⟨front, ?_⟩
    calc front ++ trimmed s = trimEnd (front ++ trimmed s) := (trimEnd_eq_self ends).symm
      _ = trimEnd ((front ++ trimmed s) ++ back) := (trimEnd_append_of_allBlank blank _).symm
      _ = trimEnd s := by rw [List.append_assoc, ← split]

/-- Blanks at the end of a text are not left. -/
theorem trimmed_append_of_allBlank {back : List Char} (blank : allBlank back = true) (s : List Char) :
    trimmed (s ++ back) = trimmed s := by
  obtain ⟨bare, front, back', blank', blank'', split⟩ := (trimmed_eq_iff (s := s)).1 rfl
  refine trimmed_eq_iff.2 ⟨bare, front, back' ++ back, blank', ?_, ?_⟩
  · rw [allBlank_append, blank'', blank, Bool.and_self]
  · rw [← List.append_assoc (trimmed s), ← List.append_assoc front, ← split]

/-- Trimming takes no character that is not blank. -/
theorem mem_trimmed_iff {s : List Char} {c : Char} (visible : isBlank c = false) :
    c ∈ trimmed s ↔ c ∈ s := by
  obtain ⟨-, front, back, blank, blank', split⟩ := (trimmed_eq_iff (s := s)).1 rfl
  have away : ∀ around : List Char, allBlank around = true → c ∉ around := by
    intro around blank member
    rw [List.all_eq_true.1 blank c member] at visible
    cases visible
  conv_rhs => rw [split]
  simp [away front blank, away back blank']

end Gamebook.Text
