import Gamebook.Text.Lead
import Mathlib.Data.List.Infix

/-!
# Patterns

A pattern says what may stand at a place of a text.  Often it may stand there in several ways, and which
of them counts is a matter of preference: of two alternatives the first is preferred, and of a
repetition or an option the longer.  So a pattern is given by the list of the ways in which it stands at a
place, the preferred one first, and what is found there is the head of that list.

## Preference and length

The preferred way need not be the longest: in `a|ab` it is the shorter one wherever both stand.  What is
listed is therefore known on two levels.  Which texts are listed at all does not depend on any order, and
`mem_ways_iff` says it by the language of the pattern (`Spells`).  What stands at the head of the list is
said construction by construction, except where the language leaves no choice (`first?_eq_map`).

## Anchors

The pattern `^(?:…)$` stands in a text exactly when the pattern inside spells all of it
(`occursIn_throughout_iff`).  The end of a text is its very end, so a line feed there is not overlooked.
-/

namespace Gamebook.Text

/-- A pattern of text. -/
inductive Pattern where
  /-- That text. -/
  | literal (text : List Char)
  /-- One character of a class. -/
  | one (inClass : Char → Bool)
  /-- Characters of a class, at least one and preferably more. -/
  | many (inClass : Char → Bool)
  /-- What the pattern says, or else nothing. -/
  | maybe (pattern : Pattern)
  /-- One pattern and then the other. -/
  | both (first second : Pattern)
  /-- One pattern, or else the other. -/
  | either (first second : Pattern)
  /-- What the pattern says, remembered as its group. -/
  | group (pattern : Pattern)
  /-- Nothing, where the text begins. -/
  | start
  /-- Nothing, where the text ends. -/
  | finish

namespace Pattern

/-- One way in which a pattern stands at a place. -/
structure Match where
  /-- All that it takes of the text. -/
  whole : List Char
  /-- What its group takes of the text, if it has one. -/
  group? : Option (List Char) := none
  deriving DecidableEq, Repr

/-- One match directly after another. -/
def Match.followedBy (first second : Match) : Match :=
  ⟨first.whole ++ second.whole, second.group?.or first.group?⟩

@[simp] theorem Match.whole_followedBy (first second : Match) :
    (first.followedBy second).whole = first.whole ++ second.whole := rfl

@[simp] theorem Match.group?_followedBy (first second : Match) :
    (first.followedBy second).group? = second.group?.or first.group? := rfl

@[simp] theorem Match.nil_followedBy (found : Match) : Match.followedBy ⟨[], none⟩ found = found := by
  cases found
  simp [Match.followedBy]

/-- The runs of a class at the start of a text, the longest first. -/
def runs (inClass : Char → Bool) : List Char → List (List Char)
  | [] => []
  | c :: rest => if inClass c then (runs inClass rest).map (c :: ·) ++ [[c]] else []

/-- The ways in which the pattern stands between two parts of a text, from the end of the first part
into the second.  The preferred way is first. -/
def ways : Pattern → (before after : List Char) → List Match
  | literal text, _, after => if text <+: after then [⟨text, none⟩] else []
  | one _, _, [] => []
  | one inClass, _, c :: _ => if inClass c then [⟨[c], none⟩] else []
  | many inClass, _, after => (runs inClass after).map (⟨·, none⟩)
  | maybe pattern, before, after => pattern.ways before after ++ [⟨[], none⟩]
  | both first second, before, after =>
    (first.ways before after).flatMap fun found =>
      (second.ways (before ++ found.whole) (after.drop found.whole.length)).map found.followedBy
  | either first second, before, after => first.ways before after ++ second.ways before after
  | group pattern, before, after =>
    (pattern.ways before after).map fun found => ⟨found.whole, some found.whole⟩
  | start, before, _ => if before = [] then [⟨[], none⟩] else []
  | finish, _, after => if after = [] then [⟨[], none⟩] else []

/-- What is found of the pattern at a place, which is the preferred way. -/
def first? (pattern : Pattern) (before after : List Char) : Option Match :=
  (pattern.ways before after).head?

/-- The matches of a pattern in the second part of a text after its first `skip` characters, from left to
right.  After a match the search goes on behind it. -/
def matchesFrom (pattern : Pattern) : (skip : Nat) → (before after : List Char) → List Match
  | _, _, [] => []
  | skip + 1, before, c :: rest => pattern.matchesFrom skip (before ++ [c]) rest
  | 0, before, c :: rest =>
    match pattern.first? before (c :: rest) with
    | some found => found :: pattern.matchesFrom (found.whole.length - 1) (before ++ [c]) rest
    | none => pattern.matchesFrom 0 (before ++ [c]) rest

/-- The matches of a pattern in a text, from left to right. -/
def matchesIn (pattern : Pattern) (s : List Char) : List Match := pattern.matchesFrom 0 [] s

/-- The pattern stands somewhere in the text. -/
def OccursIn (pattern : Pattern) (s : List Char) : Prop :=
  ∃ before after, s = before ++ after ∧ pattern.ways before after ≠ []

/-- The pattern so many times. -/
def copies (pattern : Pattern) : Nat → Pattern
  | 0 => literal []
  | n + 1 => both pattern (pattern.copies n)

/-- The pattern from the beginning of a text to its end. -/
def throughout (pattern : Pattern) : Pattern := both start (both pattern finish)

/-! ### The language of a pattern -/

/-- The pattern has neither a group nor anchors. -/
def plain : Pattern → Bool
  | literal _ => true
  | one _ => true
  | many _ => true
  | maybe pattern => pattern.plain
  | both first second => first.plain && second.plain
  | either first second => first.plain && second.plain
  | group _ => false
  | start => false
  | finish => false

/-- The text is one that the pattern may stand for. -/
def Spells : Pattern → List Char → Prop
  | literal text, s => s = text
  | one inClass, s => ∃ c, inClass c = true ∧ s = [c]
  | many inClass, s => s ≠ [] ∧ ∀ c ∈ s, inClass c = true
  | maybe pattern, s => pattern.Spells s ∨ s = []
  | both first second, s => ∃ t u, s = t ++ u ∧ first.Spells t ∧ second.Spells u
  | either first second, s => first.Spells s ∨ second.Spells s
  | group pattern, s => pattern.Spells s
  | start, s => s = []
  | finish, s => s = []

theorem mem_runs_iff {inClass : Char → Bool} {w : List Char} :
    ∀ {s : List Char}, w ∈ runs inClass s ↔ w ≠ [] ∧ (∀ c ∈ w, inClass c = true) ∧ w <+: s
  | [] => by
    rw [runs, List.prefix_nil]
    refine ⟨fun none => absurd none List.not_mem_nil, ?_⟩
    rintro ⟨given, -, none⟩
    exact absurd none given
  | c :: s => by
    rw [runs]
    split
    · next isIn =>
      rw [List.mem_append, List.mem_map, List.mem_singleton]
      constructor
      · rintro (⟨v, member, rfl⟩ | rfl)
        · obtain ⟨-, all, leads⟩ := mem_runs_iff.1 member
          exact ⟨List.cons_ne_nil _ _, List.forall_mem_cons.2 ⟨isIn, all⟩,
            List.cons_prefix_cons.2 ⟨rfl, leads⟩⟩
        · exact ⟨List.cons_ne_nil _ _, List.forall_mem_singleton.2 isIn,
            List.cons_prefix_cons.2 ⟨rfl, List.nil_prefix⟩⟩
      · rintro ⟨given, all, leads⟩
        obtain ⟨d, v, rfl⟩ := List.exists_cons_of_ne_nil given
        obtain ⟨rfl, leads'⟩ := List.cons_prefix_cons.1 leads
        by_cases short : v = []
        · exact .inr (by rw [short])
        · exact .inl ⟨v, mem_runs_iff.2 ⟨short, (List.forall_mem_cons.1 all).2, leads'⟩, rfl⟩
    · next isOut =>
      refine ⟨fun none => absurd none List.not_mem_nil, ?_⟩
      rintro ⟨given, all, leads⟩
      obtain ⟨d, v, rfl⟩ := List.exists_cons_of_ne_nil given
      obtain ⟨rfl, -⟩ := List.cons_prefix_cons.1 leads
      exact absurd (all _ List.mem_cons_self) isOut

/-- **What a plain pattern lists** is what it spells of the text that comes. -/
theorem mem_ways_iff {pattern : Pattern} (plain : pattern.plain = true) {before after : List Char}
    {found : Match} :
    found ∈ pattern.ways before after ↔
      found.group? = none ∧ found.whole <+: after ∧ pattern.Spells found.whole := by
  obtain ⟨whole, group?⟩ := found
  induction pattern generalizing before after whole group? with
  | literal text =>
    rw [ways, Spells]
    split
    · next leads =>
      rw [List.mem_singleton, Match.mk.injEq]
      constructor
      · rintro ⟨rfl, rfl⟩
        exact ⟨rfl, leads, rfl⟩
      · rintro ⟨none, -, same⟩
        exact ⟨same, none⟩
    · next other =>
      refine ⟨fun none => absurd none List.not_mem_nil, ?_⟩
      rintro ⟨-, leads, rfl⟩
      exact absurd leads other
  | one inClass =>
    rw [Spells]
    cases after with
    | nil =>
      rw [ways, List.prefix_nil]
      refine ⟨fun none => absurd none List.not_mem_nil, ?_⟩
      rintro ⟨-, rfl, c, -, single⟩
      cases single
    | cons d rest =>
      rw [ways]
      split
      · next isIn =>
        rw [List.mem_singleton, Match.mk.injEq]
        constructor
        · rintro ⟨rfl, rfl⟩
          exact ⟨rfl, List.cons_prefix_cons.2 ⟨rfl, List.nil_prefix⟩, d, isIn, rfl⟩
        · rintro ⟨none, leads, c, -, rfl⟩
          obtain ⟨rfl, -⟩ := List.cons_prefix_cons.1 leads
          exact ⟨rfl, none⟩
      · next isOut =>
        refine ⟨fun none => absurd none List.not_mem_nil, ?_⟩
        rintro ⟨-, leads, c, isIn, rfl⟩
        obtain ⟨rfl, -⟩ := List.cons_prefix_cons.1 leads
        exact absurd isIn isOut
  | many inClass =>
    rw [ways, Spells, List.mem_map]
    simp only [Match.mk.injEq, mem_runs_iff]
    constructor
    · rintro ⟨w, ⟨given, all, leads⟩, rfl, rfl⟩
      exact ⟨rfl, leads, given, all⟩
    · rintro ⟨rfl, leads, given, all⟩
      exact ⟨whole, ⟨given, all, leads⟩, rfl, rfl⟩
  | maybe pattern ih =>
    rw [ways, Spells, List.mem_append, List.mem_singleton, ih plain, Match.mk.injEq]
    constructor
    · rintro (⟨none, leads, spells⟩ | ⟨rfl, rfl⟩)
      · exact ⟨none, leads, .inl spells⟩
      · exact ⟨rfl, List.nil_prefix, .inr rfl⟩
    · rintro ⟨none, leads, spells | rfl⟩
      · exact .inl ⟨none, leads, spells⟩
      · exact .inr ⟨rfl, none⟩
  | both first second ih ih' =>
    rw [Pattern.plain, Bool.and_eq_true] at plain
    rw [ways, Spells, List.mem_flatMap]
    constructor
    · rintro ⟨⟨t, _⟩, there, member⟩
      obtain ⟨⟨u, _⟩, there', same⟩ := List.mem_map.1 member
      obtain ⟨rfl, ⟨rest, rfl⟩, spells⟩ := (ih plain.1 _ _).1 there
      rw [List.drop_left] at there'
      obtain ⟨rfl, ⟨rest', rfl⟩, spells'⟩ := (ih' plain.2 _ _).1 there'
      rw [Match.followedBy, Match.mk.injEq] at same
      obtain ⟨rfl, rfl⟩ := same
      exact ⟨rfl, ⟨rest', List.append_assoc _ _ _⟩, t, u, rfl, spells, spells'⟩
    · rintro ⟨rfl, ⟨rest, rfl⟩, t, u, rfl, spells, spells'⟩
      rw [List.append_assoc]
      refine ⟨⟨t, none⟩, (ih plain.1 _ _).2 ⟨rfl, List.prefix_append _ _, spells⟩,
        List.mem_map.2 ⟨⟨u, none⟩, ?_, rfl⟩⟩
      rw [List.drop_left]
      exact (ih' plain.2 _ _).2 ⟨rfl, List.prefix_append _ _, spells'⟩
  | either first second ih ih' =>
    rw [Pattern.plain, Bool.and_eq_true] at plain
    rw [ways, Spells, List.mem_append, ih plain.1, ih' plain.2]
    tauto
  | group pattern _ => cases plain
  | start => cases plain
  | finish => cases plain

/-- **Where the language leaves no choice**, what is found is the text that is spelled. -/
theorem first?_eq_map {pattern : Pattern} (plain : pattern.plain = true) {before after : List Char}
    {spelled? : Option (List Char)}
    (only : ∀ w, spelled? = some w ↔ w <+: after ∧ pattern.Spells w) :
    pattern.first? before after = spelled?.map (⟨·, none⟩) := by
  have listed : ∀ found ∈ pattern.ways before after,
      found.group? = none ∧ spelled? = some found.whole := fun found member =>
    ((mem_ways_iff plain).1 member).imp_right (only _).2
  cases spelled? with
  | none =>
    rw [first?, List.head?_eq_none_iff.2]
    · rfl
    · exact List.eq_nil_iff_forall_not_mem.2 fun found member => nomatch (listed found member).2
  | some w =>
    have member : ⟨w, none⟩ ∈ pattern.ways before after :=
      (mem_ways_iff plain).2 ⟨rfl, (only w).1 rfl⟩
    obtain ⟨⟨v, group?⟩, rest, split⟩ := List.exists_cons_of_ne_nil (List.ne_nil_of_mem member)
    obtain ⟨rfl, same⟩ := listed ⟨v, group?⟩ (split ▸ List.mem_cons_self)
    rw [first?, split, List.head?_cons, same]
    rfl

/-! ### What is found -/

theorem first?_literal_both (text : List Char) (pattern : Pattern) (before after : List Char) :
    (both (literal text) pattern).first? before after =
      (following? text after).bind fun rest =>
        (pattern.first? (before ++ text) rest).map (Match.followedBy ⟨text, none⟩) := by
  rw [first?, ways, ways]
  split
  · next leads =>
    obtain ⟨rest, rfl⟩ := leads
    rw [following?_eq_some_iff.2 rfl, List.flatMap_singleton, List.head?_map, List.drop_left]
    rfl
  · next other =>
    have none : following? text after = none :=
      Option.eq_none_iff_forall_ne_some.2 fun rest leads =>
        other ⟨rest, (following?_eq_some_iff.1 leads).symm⟩
    rw [none]
    rfl

theorem first?_maybe_both (pattern pattern' : Pattern) (before after : List Char) :
    (both (maybe pattern) pattern').first? before after =
      ((both pattern pattern').first? before after).or (pattern'.first? before after) := by
  have skipped : (Match.followedBy ⟨[], none⟩) = id := funext Match.nil_followedBy
  rw [first?, first?, ways, ways, ways, List.flatMap_append, List.head?_append, List.flatMap_singleton,
    skipped, List.map_id, List.append_nil, List.length_nil, List.drop_zero, first?]

theorem first?_either (pattern pattern' : Pattern) (before after : List Char) :
    (either pattern pattern').first? before after =
      (pattern.first? before after).or (pattern'.first? before after) :=
  List.head?_append

theorem first?_group (pattern : Pattern) (before after : List Char) :
    (group pattern).first? before after =
      (pattern.first? before after).map fun found => ⟨found.whole, some found.whole⟩ :=
  List.head?_map

theorem head?_runs (inClass : Char → Bool) :
    ∀ s : List Char, (runs inClass s).head? =
      if s.takeWhile inClass = [] then none else some (s.takeWhile inClass)
  | [] => rfl
  | c :: s => by
    rw [runs, List.takeWhile_cons]
    split
    · next isIn =>
      rw [if_neg (List.cons_ne_nil _ _), List.head?_append, List.head?_map, head?_runs inClass s]
      split
      · next none => rw [none]; rfl
      · rfl
    · rfl

/-- Of a repetition the longest is found. -/
theorem first?_many (inClass : Char → Bool) (before after : List Char) :
    (many inClass).first? before after =
      if after.takeWhile inClass = [] then none else some ⟨after.takeWhile inClass, none⟩ := by
  rw [first?, ways, List.head?_map, head?_runs]
  split <;> rfl

/-! ### Copies -/

theorem spells_copies_one_iff {inClass : Char → Bool} {n : Nat} {s : List Char} :
    ((one inClass).copies n).Spells s ↔ s.length = n ∧ ∀ c ∈ s, inClass c = true := by
  induction n generalizing s with
  | zero =>
    rw [copies, Spells, List.length_eq_zero_iff]
    refine ⟨?_, And.left⟩
    rintro rfl
    exact ⟨rfl, List.forall_mem_nil _⟩
  | succ n ih =>
    rw [copies, Spells]
    constructor
    · rintro ⟨t, u, rfl, ⟨c, isIn, rfl⟩, spells⟩
      obtain ⟨rfl, all⟩ := ih.1 spells
      exact ⟨rfl, List.forall_mem_cons.2 ⟨isIn, all⟩⟩
    · rintro ⟨long, all⟩
      obtain ⟨c, u, rfl⟩ := List.exists_cons_of_length_eq_add_one long
      obtain ⟨isIn, all⟩ := List.forall_mem_cons.1 all
      exact ⟨[c], u, rfl, ⟨c, isIn, rfl⟩, ih.2 ⟨Nat.succ.inj long, all⟩⟩

theorem plain_copies {pattern : Pattern} (plain : pattern.plain = true) :
    ∀ n : Nat, (pattern.copies n).plain = true
  | 0 => rfl
  | n + 1 => by rw [copies, Pattern.plain, plain, plain_copies plain n, Bool.and_self]

/-! ### Anchors -/

/-- At the beginning of a text, what comes after the anchor is what comes. -/
theorem ways_start_both (pattern : Pattern) (after : List Char) :
    (both start pattern).ways [] after = pattern.ways [] after := by
  have skipped : (Match.followedBy ⟨[], none⟩) = id := funext Match.nil_followedBy
  rw [ways, ways, if_pos rfl, List.flatMap_singleton, skipped, List.map_id]
  rfl

/-- **A pattern with both anchors** stands in the texts that it spells and in no others. -/
theorem occursIn_throughout_iff {pattern : Pattern} (plain : pattern.plain = true) {s : List Char} :
    pattern.throughout.OccursIn s ↔ pattern.Spells s := by
  constructor
  · rintro ⟨before, after, rfl, given⟩
    cases before with
    | nil =>
      rw [throughout, ways_start_both] at given
      obtain ⟨found, member⟩ := List.exists_mem_of_ne_nil _ given
      obtain ⟨body, there, member⟩ := List.mem_flatMap.1 member
      obtain ⟨ended, there', -⟩ := List.mem_map.1 member
      obtain ⟨-, ⟨rest, rfl⟩, spells⟩ := (mem_ways_iff plain).1 there
      -- the end of the text is there only if nothing is left
      rw [List.drop_left, ways] at there'
      split at there'
      · next none => rwa [none, List.append_nil]
      · exact absurd there' List.not_mem_nil
    | cons c before => exact absurd (by rw [throughout, ways, ways]; rfl) given
  · intro spells
    refine ⟨[], s, rfl, List.ne_nil_of_mem (a := ⟨s, none⟩) ?_⟩
    rw [throughout, ways_start_both, ways, List.mem_flatMap]
    refine ⟨⟨s, none⟩, (mem_ways_iff plain).2 ⟨rfl, List.prefix_rfl, spells⟩, ?_⟩
    rw [List.drop_length, ways, if_pos rfl, List.map_singleton, List.mem_singleton, Match.followedBy,
      List.append_nil]
    rfl

end Pattern

end Gamebook.Text
