import Gamebook.Proofs.Document.FrontMatter
import Gamebook.Proofs.Story.Ingestion

/-!
# Documents that come to the same

A document counts for its prose and for what its metadata say, and not for how these are spelled.  Two
texts that are split alike have the same contents (`contentsOf_congr`), and documents with the same
contents can stand for each other in a story (`ofSources_congr`).  The texts of their variants tell other
documents apart (`nodeOf_eq_of_ofSources_eq`).

## The byte order mark

Byte order marks in front of a document are not part of its content, so a document is split in the same
way with one more (`splitFrontMatter_byteOrderMark`).  A document whose block is never closed is an
exception all the same.  What is kept of it is not its content but the whole of it, trimmed; the mark is
no blank, so it stays, and so do the blanks behind it (`trimmed_byteOrderMark`).
-/

namespace Gamebook.Story

open Gamebook.Document

/-! ### Contents -/

/-- Two texts that are split alike have the same contents, unless they cannot be split. -/
theorem contentsOf_congr {raw raw' : String} (split : splitFrontMatter raw = splitFrontMatter raw')
    (closed : splitFrontMatter raw' ≠ .error .unterminated) : contentsOf raw = contentsOf raw' := by
  unfold contentsOf
  rw [split]
  cases parts : splitFrontMatter raw' with
  | ok parts => rfl
  | error cause =>
    cases cause
    exact absurd parts closed

variable {source : Source} {raw : String}

theorem insertionOf_congr (same : contentsOf raw = contentsOf source.raw) (revisitDefault : Bool) :
    insertionOf revisitDefault { source with raw := raw } = insertionOf revisitDefault source := by
  simp only [insertionOf, same]

/-- **Documents with the same contents** can stand for each other. -/
theorem ofSources_congr (same : contentsOf raw = contentsOf source.raw) (revisitDefault : Bool)
    (before after : List Source) :
    Graph.ofSources revisitDefault (before ++ { source with raw := raw } :: after) =
      Graph.ofSources revisitDefault (before ++ source :: after) := by
  simp only [Graph.ofSources, List.map_append, List.map_cons, insertionOf_congr same]

/-- **The variants of two documents are the same** if one can stand for the other. -/
theorem nodeOf_eq_of_ofSources_eq {revisitDefault : Bool} {before after : List Source}
    (same : Graph.ofSources revisitDefault (before ++ { source with raw := raw } :: after) =
      Graph.ofSources revisitDefault (before ++ source :: after)) :
    nodeOf { source with raw := raw } = nodeOf source := by
  have differ : Graph.DiffersAt source.group (nodeOf source) (nodeOf { source with raw := raw }) _ _ :=
    Graph.differsAt_ofSources revisitDefault before after rfl
  obtain ⟨front, back, nodes, nodes'⟩ := differ.nodes
  rw [same, nodes] at nodes'
  exact (List.cons.inj (List.append_cancel_left nodes')).1.symm

/-! ### The byte order mark -/

theorem content_byteOrderMark (s : List Char) : content (byteOrderMark :: s) = content s := by
  have inFront : (byteOrderMark :: s).dropWhile (· == byteOrderMark) =
      s.dropWhile (· == byteOrderMark) := List.dropWhile_cons_of_pos (beq_self_eq_true byteOrderMark)
  rw [content, content, inFront]

theorem toList_byteOrderMark_append (raw : String) :
    ("\uFEFF" ++ raw).toList = byteOrderMark :: raw.toList := by
  rw [String.toList_append]
  rfl

/-- **A byte order mark has no part in how a document is split.** -/
theorem splitFrontMatter_byteOrderMark (raw : String) :
    splitFrontMatter ("\uFEFF" ++ raw) = splitFrontMatter raw := by
  rw [splitFrontMatter, splitFrontMatter, toList_byteOrderMark_append, content_byteOrderMark]

/-- The mark is no blank. -/
theorem trimmed_byteOrderMark (s : List Char) :
    Text.trimmed (byteOrderMark :: s) = byteOrderMark :: Text.trimEnd s := by
  have visible : Text.isBlank byteOrderMark = false := by decide
  rw [Text.trimmed, Text.trimStart_cons_of_not_blank visible, Text.trimEnd_cons_of_not_blank visible]

theorem contentsOf_of_unterminated {raw : String}
    (unclosed : splitFrontMatter raw = .error .unterminated) :
    contentsOf raw = (String.ofList (Text.trimmed raw.toList), {}) :=
  (Unreadable.unterminated unclosed).contentsOf_eq

/-- **With a byte order mark in front** a document whose block is never closed keeps the mark. -/
theorem insertionOf_byteOrderMark (unclosed : splitFrontMatter source.raw = .error .unterminated)
    (revisitDefault : Bool) :
    insertionOf revisitDefault { source with raw := "\uFEFF" ++ source.raw } =
      { insertionOf revisitDefault source with
        node := { nodeOf source with
          text := String.ofList (byteOrderMark :: Text.trimEnd source.raw.toList) } } := by
  have unclosed' := (splitFrontMatter_byteOrderMark source.raw).trans unclosed
  simp only [insertionOf, nodeOf, contentsOf_of_unterminated unclosed,
    contentsOf_of_unterminated unclosed', toList_byteOrderMark_append, trimmed_byteOrderMark]

/-- What is left of a text has no more in front of it than the text. -/
theorem trimmed_ne_cons_trimEnd (c : Char) (s : List Char) : Text.trimmed s ≠ c :: Text.trimEnd s := by
  intro same
  have shorter := (Text.trimmed_isSuffix_trimEnd s).length_le
  rw [same, List.length_cons] at shorter
  omega

/-- **A byte order mark in front of a document is ignored** exactly when the document can be split.  If
its block is never closed, its variant has the mark in front of its text, and is otherwise the same. -/
theorem ofSources_byteOrderMark (revisitDefault : Bool) (before after : List Source)
    (source : Source) :
    (Graph.ofSources revisitDefault (before ++ { source with raw := "\uFEFF" ++ source.raw } :: after) =
        Graph.ofSources revisitDefault (before ++ source :: after) ↔
      splitFrontMatter source.raw ≠ .error .unterminated) ∧
    (splitFrontMatter source.raw = .error .unterminated →
      insertionOf revisitDefault { source with raw := "\uFEFF" ++ source.raw } =
        { insertionOf revisitDefault source with
          node := { nodeOf source with
            text := String.ofList (byteOrderMark :: Text.trimEnd source.raw.toList) } }) := by
  refine ⟨⟨fun same unclosed => ?_, fun closed => ?_⟩, fun unclosed =>
    insertionOf_byteOrderMark unclosed revisitDefault⟩
  · have marked := congrArg (·.node.text) (insertionOf_byteOrderMark unclosed revisitDefault)
    have unmarked : (nodeOf source).text = String.ofList (Text.trimmed source.raw.toList) := by
      simp only [nodeOf, insertionOf, contentsOf_of_unterminated unclosed]
    rw [node_insertionOf, nodeOf_eq_of_ofSources_eq same, unmarked] at marked
    exact trimmed_ne_cons_trimEnd _ _ (String.ofList_injective marked)
  · exact ofSources_congr
      (contentsOf_congr (splitFrontMatter_byteOrderMark source.raw) closed) revisitDefault before after

/-- A document whose block is never closed, and one with a block. -/
def neverClosed : Source := .ofId "a.md" "---\nstart: true\nunterminated"

@[inherit_doc neverClosed]
def closedOnce : Source := .ofId "b.md" "---\nstart: true\n---\nHello"

theorem byteOrderMark_closedOnce :
    (Graph.ofSources true [neverClosed, { closedOnce with raw := "\uFEFF" ++ closedOnce.raw }] =
      Graph.ofSources true [neverClosed, closedOnce]) ∧
    splitFrontMatter neverClosed.raw = .error .unterminated ∧
    (nodeOf { neverClosed with raw := "\uFEFF" ++ neverClosed.raw }).text =
      "\uFEFF---\nstart: true\nunterminated" := by
  have split : splitFrontMatter closedOnce.raw = .ok ⟨some "\nstart: true\n", "Hello"⟩ :=
    Graph.eq_ok_of_toOption (by decide +kernel)
  have failed : (splitFrontMatter neverClosed.raw).toOption.isNone = true := by decide +kernel
  obtain ⟨⟨⟩, unclosed⟩ := Graph.exists_error_of_toOption failed
  obtain ⟨same, -⟩ := ofSources_byteOrderMark true [neverClosed] [] closedOnce
  obtain ⟨-, kept⟩ := ofSources_byteOrderMark true [] [] neverClosed
  refine ⟨same.2 ?_, unclosed, ?_⟩
  · rw [split]
    nofun
  · rw [nodeOf, kept unclosed]
    decide +kernel

/-- **A byte order mark is not ignored** in front of every document. -/
theorem ofSources_byteOrderMark_ne :
    (¬ ∀ (revisitDefault : Bool) (sourceId raw : String),
      Graph.ofSources revisitDefault [.ofId sourceId ("\uFEFF" ++ raw)] =
        Graph.ofSources revisitDefault [.ofId sourceId raw]) ∧
    (Graph.ofSources true [.ofId "a.md" "---\nstart: true\nunterminated"]).nodes.map (·.text) =
      ["---\nstart: true\nunterminated"] ∧
    (Graph.ofSources true [.ofId "a.md" "\uFEFF---\nstart: true\nunterminated"]).nodes.map (·.text) =
      ["\uFEFF---\nstart: true\nunterminated"] := by
  have unmarked :
      (Graph.ofSources true [.ofId "a.md" "---\nstart: true\nunterminated"]).nodes.map (·.text) =
        ["---\nstart: true\nunterminated"] := by decide +kernel
  have marked :
      (Graph.ofSources true [.ofId "a.md" ("\uFEFF" ++ "---\nstart: true\nunterminated")]).nodes.map
        (·.text) = ["\uFEFF---\nstart: true\nunterminated"] := by decide +kernel
  refine ⟨fun claimed => ?_, unmarked, marked⟩
  rw [claimed true "a.md", unmarked] at marked
  exact absurd marked (by decide)

end Gamebook.Story
