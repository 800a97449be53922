import Gamebook.Text.Blank

/-!
# Lexicons

The words that may follow a slash, in the order in which they are tried.  A longer word stands before
a shorter one, so that of the words a text starts with the longest is found: `faster` is never read
as `fast`.  Words of one length stand in alphabetical order.  The order is strict, so that it leaves
one list for every set of words, however often and in whatever order they were named.

The length is that of the encoded word.  For two words that one text starts with it makes no
difference, since of those one continues the other.
-/

namespace Gamebook.Marker

/-! ### The order of words -/

/-- The word is tried before the other one. -/
def Precedes (a b : String) : Prop :=
  b.utf8ByteSize < a.utf8ByteSize ∨ (b.utf8ByteSize = a.utf8ByteSize ∧ a < b)

instance (a b : String) : Decidable (Precedes a b) :=
  inferInstanceAs (Decidable (_ ∨ _))

theorem Precedes.trans {a b c : String} (hab : Precedes a b) (hbc : Precedes b c) :
    Precedes a c := by
  rcases hab with hab | ⟨hab, lab⟩ <;> rcases hbc with hbc | ⟨hbc, lbc⟩
  · exact .inl (Nat.lt_trans hbc hab)
  · exact .inl (hbc ▸ hab)
  · exact .inl (hab ▸ hbc)
  · exact .inr ⟨hbc.trans hab, String.lt_trans lab lbc⟩

/-- **Of two words one precedes the other.** -/
theorem precedes_or_precedes {a b : String} (h : a ≠ b) : Precedes a b ∨ Precedes b a := by
  rcases Nat.lt_trichotomy a.utf8ByteSize b.utf8ByteSize with less | same | more
  · exact .inr (.inl less)
  · by_cases lt : a < b
    · exact .inl (.inr ⟨same.symm, lt⟩)
    · by_cases gt : b < a
      · exact .inr (.inr ⟨same, gt⟩)
      · exact absurd (String.le_antisymm (String.not_lt.1 gt) (String.not_lt.1 lt)) h
  · exact .inl (.inl more)

/-! ### Making a lexicon -/

/-- The words with one more, at its place in the order; a word that is there already stays single. -/
def insertWord (word : String) : List String → List String
  | [] => [word]
  | first :: rest =>
    if word = first then first :: rest
    else if Precedes word first then word :: first :: rest
    else first :: insertWord word rest

theorem mem_insertWord {w word : String} :
    ∀ {words : List String}, w ∈ insertWord word words ↔ w = word ∨ w ∈ words
  | [] => by simp [insertWord]
  | first :: rest => by
    rw [insertWord]
    split
    · next same => simp [same]
    · split
      · simp
      · rw [List.mem_cons, mem_insertWord, List.mem_cons]
        exact or_left_comm

theorem pairwise_insertWord {word : String} :
    ∀ {words : List String}, words.Pairwise Precedes → (insertWord word words).Pairwise Precedes
  | [], _ => List.pairwise_singleton _ _
  | first :: rest, ordered => by
    obtain ⟨head, tail⟩ := List.pairwise_cons.1 ordered
    rw [insertWord]
    split
    · exact ordered
    · next other =>
      split
      · next before =>
        refine List.pairwise_cons.2 ⟨fun w member => ?_, ordered⟩
        rcases List.mem_cons.1 member with rfl | member
        · exact before
        · exact before.trans (head w member)
      · next notBefore =>
        refine List.pairwise_cons.2 ⟨fun w member => ?_, pairwise_insertWord tail⟩
        rcases mem_insertWord.1 member with rfl | member
        · exact (precedes_or_precedes other).resolve_left notBefore
        · exact head w member

theorem mem_foldr_insertWord {word : String} {words : List String} :
    word ∈ words.foldr insertWord [] ↔ word ∈ words := by
  induction words with
  | nil => rfl
  | cons first rest ih => rw [List.foldr_cons, mem_insertWord, ih, List.mem_cons]

theorem pairwise_foldr_insertWord (words : List String) :
    (words.foldr insertWord []).Pairwise Precedes := by
  induction words with
  | nil => exact .nil
  | cons word rest ih => exact pairwise_insertWord ih

/-- The words that a list of texts names: each trimmed, without the blank ones, in order. -/
def wordsOf (texts : List String) : List String :=
  ((texts.map Text.trim).filter fun word => !word.isEmpty).foldr insertWord []

theorem pairwise_wordsOf (texts : List String) : (wordsOf texts).Pairwise Precedes :=
  pairwise_foldr_insertWord _

/-- At least one word, in the order in which words are tried. -/
structure Lexicon where
  /-- The words. -/
  words : List String
  /-- There is a word. -/
  ne_nil : words ≠ []
  /-- The words are in order, and none occurs twice. -/
  ordered : words.Pairwise Precedes

namespace Lexicon

/-- The lexicon of the words that a list of texts names, if it names any. -/
def ofTexts? (texts : List String) : Option Lexicon :=
  if h : wordsOf texts = [] then none else some ⟨wordsOf texts, h, pairwise_wordsOf texts⟩

/-- The first word that a text starts with. -/
def leading? (lexicon : Lexicon) (s : List Char) : Option String :=
  lexicon.words.find? fun word => word.toList.isPrefixOf s

/-- The text is one of the words. -/
def contains (lexicon : Lexicon) (s : List Char) : Bool :=
  lexicon.words.any fun word => word.toList == s

end Lexicon

end Gamebook.Marker
