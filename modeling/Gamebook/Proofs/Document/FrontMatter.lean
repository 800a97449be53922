import Gamebook.Document.FrontMatter
import Gamebook.Proofs.Text.Trimming
import Mathlib.Data.List.Infix

/-!
# Splitting a document, and putting it together

A document with a metadata block is an opening mark, the block, a closing mark and prose.  This file says
that splitting finds these parts, and which parts it finds again after they were put together.

## Where a block ends

A mark is looked for as three dashes in a row, on whatever line, and the first three are taken.  So a block
never holds a mark, but it may begin or end with dashes of its own, and at its end these run together with
the closing mark: of four dashes the first three close the block.  A block is found again exactly when it
holds no mark and its last character is no dash (`firstPlace_mark_append_iff`).

## Blanks

The text of a document is trimmed before it is split, and the prose after it.  The blanks at the end of
the text are those at the end of its prose, so it is the same to trim the prose alone
(`content_assembled`).
-/

namespace Gamebook.Document

/-- The text is an opening mark, the block, a closing mark and the rest, and no mark stands after the
opening one and before the closing one. -/
structure Encloses (text block rest : List Char) : Prop where
  parts : text = mark ++ (block ++ (mark ++ rest))
  first : ∀ front back, block ++ (mark ++ rest) = front ++ (mark ++ back) →
    block.length ≤ front.length

/-- How the text of a document is split. -/
structure SplitsAs (text : List Char) (result : Except SplitError FrontMatter) : Prop where
  /-- All of the text is prose if it does not open with a mark. -/
  plain : ∀ body, result = .ok ⟨none, body⟩ ↔ ¬ mark <+: text ∧ body = String.ofList text
  /-- The text cannot be split if it opens with a mark and there is no other mark. -/
  unterminated : result = .error .unterminated ↔
    ∃ inside, text = mark ++ inside ∧ ¬ mark <:+: inside
  /-- A block is enclosed by marks, and what follows it is the prose, without blanks at its ends and with
  every backslash a slash. -/
  divided : ∀ block body, result = .ok ⟨some block, body⟩ ↔
    ∃ rest, Encloses text block.toList rest ∧
      body = String.ofList ((Text.trimmed rest).map fun c => if c = '\\' then '/' else c)
  /-- If there is another mark, there is one block with one rest. -/
  unique : (∃ inside, text = mark ++ inside ∧ mark <:+: inside) ↔
    ∃! parts : List Char × List Char, Encloses text parts.1 parts.2

/-! ### Marks -/

theorem encloses_iff {inside block rest : List Char} :
    Encloses (mark ++ inside) block rest ↔ Text.FirstPlace mark inside block rest := by
  constructor
  · rintro ⟨parts, first⟩
    obtain rfl := List.append_cancel_left parts
    exact ⟨rfl, first⟩
  · rintro ⟨rfl, first⟩
    exact ⟨rfl, first⟩

theorem not_encloses_of_plain {text block rest : List Char} (plain : ¬ mark <+: text) :
    ¬ Encloses text block rest :=
  fun encloses => plain ⟨_, encloses.parts.symm⟩

/-- What a text holds it holds somewhere first. -/
theorem isInfix_iff_exists_firstPlace {lead s : List Char} :
    lead <:+: s ↔ ∃ before after, Text.FirstPlace lead s before after := by
  constructor
  · rintro ⟨front, back, split⟩
    cases cut : Text.cutAt? lead s with
    | none => exact absurd (by rw [← split, List.append_assoc]) (Text.cutAt?_eq_none_iff.1 cut front back)
    | some parts => exact ⟨parts.1, parts.2, Text.cutAt?_eq_some_iff.1 cut⟩
  · rintro ⟨before, after, place⟩
    exact ⟨before, after, by rw [place.parts, List.append_assoc]⟩

/-- **A mark that is put behind a block is the first one** exactly when the block holds none and does not
end in a dash. -/
theorem firstPlace_mark_append_iff {block rest : List Char} :
    Text.FirstPlace mark (block ++ (mark ++ rest)) block rest ↔
      ¬ mark <:+: block ∧ block.getLast? ≠ some '-' := by
  constructor
  · intro place
    constructor
    · rintro ⟨front, back, rfl⟩
      have early := place.first front (back ++ (mark ++ rest)) (by simp only [List.append_assoc])
      simp only [List.length_append, mark, List.length_cons] at early
      omega
    · intro last
      -- the last dash of the block and the first two of the mark are a mark before it
      obtain ⟨front, rfl⟩ := List.getLast?_eq_some_iff.1 last
      have early := place.first front ('-' :: rest) (by simp [mark])
      rw [List.length_append, List.length_singleton] at early
      omega
  · rintro ⟨free, last⟩
    refine ⟨rfl, fun front back other => ?_⟩
    rcases List.append_eq_append_iff.1 other with ⟨between, rfl, -⟩ | ⟨dashes, rfl, overlap⟩
    · rw [List.length_append]
      exact Nat.le_add_right _ _
    · -- what the block has after the front begins with as many dashes as fit
      rcases dashes with _ | ⟨a, _ | ⟨b, _ | ⟨c, dashes⟩⟩⟩
      · rw [List.append_nil]
      · simp only [mark, List.cons_append, List.cons.injEq] at overlap
        simp [← overlap.1] at last
      · simp only [mark, List.cons_append, List.cons.injEq] at overlap
        simp [← overlap.2.1] at last
      · simp only [mark, List.cons_append, List.cons.injEq] at overlap
        obtain ⟨rfl, rfl, rfl, -⟩ := overlap
        exact absurd ⟨front, dashes, by simp [mark]⟩ free

/-! ### Splitting -/

theorem splitsAs_of_plain {text : List Char} (plain : ¬ mark <+: text) :
    SplitsAs text (.ok ⟨none, String.ofList text⟩) := by
  have closed : ∀ inside, text ≠ mark ++ inside := fun inside split => plain ⟨inside, split.symm⟩
  refine ⟨fun body => ?_, ?_, fun block body => ?_, ?_⟩
  · simp [plain, eq_comm]
  · simp [closed]
  · simp [not_encloses_of_plain plain]
  · simp [closed, not_encloses_of_plain plain, ExistsUnique]

theorem splitsAs_of_not_isInfix {inside : List Char} (open_ : ¬ mark <:+: inside) :
    SplitsAs (mark ++ inside) (.error .unterminated) := by
  have nowhere : ∀ block rest, ¬ Text.FirstPlace mark inside block rest := fun block rest place =>
    open_ (isInfix_iff_exists_firstPlace.2 ⟨block, rest, place⟩)
  refine ⟨fun body => ?_, ?_, fun block body => ?_, ?_⟩
  · simp
  · simp [open_]
  · simp [encloses_iff, nowhere]
  · simp [encloses_iff, nowhere, open_, ExistsUnique]

theorem splitsAs_of_firstPlace {inside block rest : List Char}
    (place : Text.FirstPlace mark inside block rest) :
    SplitsAs (mark ++ inside) (.ok ⟨some (String.ofList block), String.ofList (prose rest)⟩) := by
  have held : mark <:+: inside := isInfix_iff_exists_firstPlace.2 ⟨block, rest, place⟩
  refine ⟨fun body => ?_, ?_, fun block' body => ?_, ?_⟩
  · simp
  · simp [held]
  · simp only [encloses_iff, Except.ok.injEq, FrontMatter.mk.injEq, Option.some.injEq]
    constructor
    · rintro ⟨rfl, rfl⟩
      exact ⟨rest, by rwa [String.toList_ofList], rfl⟩
    · rintro ⟨rest', place', rfl⟩
      obtain ⟨rfl, rfl⟩ := place.unique place'
      exact ⟨String.ofList_toList, rfl⟩
  · simp only [encloses_iff]
    refine ⟨fun _ => ⟨(block, rest), place, fun parts place' => ?_⟩, fun _ => ⟨inside, rfl, held⟩⟩
    obtain ⟨same, same'⟩ := place.unique place'
    rw [same, same']

/-- **A document is split as its text is.** -/
theorem splitsAs (raw : String) : SplitsAs (content raw.toList) (splitFrontMatter raw) := by
  rw [splitFrontMatter]
  generalize content raw.toList = text
  cases opens : Text.following? mark text with
  | none =>
    refine splitsAs_of_plain ?_
    rintro ⟨inside, rfl⟩
    rw [Text.following?_eq_some_iff.2 rfl] at opens
    cases opens
  | some inside =>
    obtain rfl := Text.following?_eq_some_iff.1 opens
    cases cut : Text.cutAt? mark inside with
    | none =>
      simp only [cut]
      refine splitsAs_of_not_isInfix fun held => ?_
      obtain ⟨block, rest, place⟩ := isInfix_iff_exists_firstPlace.1 held
      rw [Text.cutAt?_eq_some_iff.2 place] at cut
      cases cut
    | some parts =>
      simp only [cut]
      exact splitsAs_of_firstPlace (Text.cutAt?_eq_some_iff.1 cut)

/-! ### Putting together -/

/-- The text of a document with that block and that prose. -/
def assembled (block body : List Char) : List Char := mark ++ (block ++ (mark ++ body))

theorem getLast?_assembled (block body : List Char) :
    (assembled block body).getLast? = body.getLast?.or (some '-') := by
  rw [assembled, List.getLast?_append, List.getLast?_append, List.getLast?_append]
  cases body.getLast? <;> rfl

/-- **The text of a document is trimmed where its prose is.** -/
theorem content_assembled (block body : List Char) :
    content (assembled block body) = assembled block (Text.trimEnd body) := by
  obtain ⟨back, blank, split⟩ := Text.exists_trimEnd_append body
  have noMark : (assembled block body).dropWhile (· == byteOrderMark) = assembled block body :=
    List.dropWhile_cons_of_neg (by decide)
  rw [content, noMark, Text.trimmed_eq_iff]
  refine ⟨⟨fun c first => ?_, fun c last => ?_⟩, [], back, rfl, blank, ?_⟩
  · obtain rfl : '-' = c := Option.some.inj first
    decide
  · rw [getLast?_assembled, Option.mem_def, Option.or_eq_some_iff] at last
    rcases last with last | ⟨-, dash⟩
    · exact Text.isBlank_of_mem_getLast?_trimEnd last
    · obtain rfl : '-' = c := Option.some.inj dash
      decide
  · rw [assembled, assembled, List.nil_append]
    simp only [List.append_assoc]
    rw [← split]

theorem prose_trimEnd (body : List Char) : prose (Text.trimEnd body) = prose body := by
  obtain ⟨back, blank, split⟩ := Text.exists_trimEnd_append body
  rw [prose, prose, ← Text.trimmed_append_of_allBlank blank, ← split]

/-- **A block is found again** exactly when it holds no mark and does not end in a dash. -/
theorem splitFrontMatter_assembled_iff {raw block : String} {body : List Char}
    (text : raw.toList = assembled block.toList body) :
    splitFrontMatter raw = .ok ⟨some block, String.ofList (prose body)⟩ ↔
      ¬ mark <:+: block.toList ∧ block.toList.getLast? ≠ some '-' := by
  have divided := (splitsAs raw).divided block (String.ofList (prose body))
  rw [text, content_assembled] at divided
  simp only [assembled, encloses_iff] at divided
  rw [divided]
  constructor
  · rintro ⟨rest, place, -⟩
    obtain rfl := List.append_cancel_left (List.append_cancel_left place.parts)
    exact firstPlace_mark_append_iff.1 place
  · intro free
    exact ⟨Text.trimEnd body, firstPlace_mark_append_iff.2 free,
      congrArg String.ofList (prose_trimEnd body).symm⟩

/-- **Splitting a document is exact in both directions.**

The text of a document, which is what is left of it without byte order marks in front and blanks around,
is all prose exactly when it does not open with a mark, and it cannot be split exactly when there is no
mark after that.  Otherwise the block ends at the first mark after the opening one, and what follows is
the prose, without blanks around and with slashes for backslashes.

A document that is put together from a block and prose is split into these two exactly when the block
holds no mark and does not end in a dash. -/
theorem splitFrontMatter_exact :
    (∀ raw : String,
        SplitsAs (Text.trimmed (raw.toList.dropWhile (· == '\uFEFF'))) (splitFrontMatter raw)) ∧
      ∀ block body : String,
        splitFrontMatter ("---" ++ block ++ "---" ++ body) =
            .ok ⟨some block,
              String.ofList ((Text.trimmed body.toList).map fun c => if c = '\\' then '/' else c)⟩ ↔
          ¬ mark <:+: block.toList ∧ block.toList.getLast? ≠ some '-' := by
  refine ⟨splitsAs, fun block body => splitFrontMatter_assembled_iff ?_⟩
  simp [assembled, mark]

-- the last dash of the block and the mark are four dashes, of which the first three are taken
example : splitFrontMatter "---a----b" = .ok ⟨some "a", "-b"⟩ := by decide +kernel

example : splitFrontMatter "\uFEFF ---a\\--- b\\c\n" = .ok ⟨some "a\\", "b/c"⟩ := by decide +kernel

end Gamebook.Document
