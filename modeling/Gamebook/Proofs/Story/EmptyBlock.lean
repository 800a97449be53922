import Gamebook.Proofs.Story.Spellings

/-!
# A metadata block that says nothing

Prose can be written down in two ways: by itself, or behind a metadata block in which nothing stands.  The
block says nothing about the passage, so the two might be expected to come to the same.  This file says how
far they do.

## What the block changes

Blanks make no difference: the prose is trimmed whichever way it is written, and the line feed that ends
the block is a blank in front of it.  What remains is how markers are written.  A backslash opens a marker
as a slash does, but it is made a slash only in prose behind a block (`contentsOf_withEmptyBlock`).  A
document that is prose throughout keeps it (`contentsOf_of_isProse`).  So the two come to the same exactly
when there is no backslash in the prose (`ofSources_emptyBlock`).

## What is prose throughout

A document is prose if it does not open with a mark, and blanks before the mark do not count.  Byte order
marks in front of it do not count either, but behind a block they are part of the prose.  So the comparison
is made for documents that begin with none.
-/

namespace Gamebook

/-! ### How the two are split -/

namespace Document

/-- The text with every backslash a slash. -/
def slashed (s : List Char) : List Char := s.map fun c => if c = '\\' then '/' else c

theorem slashed_eq_self_iff {s : List Char} : slashed s = s ↔ '\\' ∉ s := by
  have pointwise : slashed s = s.map id ↔ ∀ c ∈ s, (if c = '\\' then '/' else c) = id c :=
    List.map_inj_left
  rw [List.map_id] at pointwise
  rw [pointwise]
  constructor
  · intro same member
    exact absurd (same '\\' member) (by decide)
  · intro none c member
    exact if_neg fun h : c = '\\' => none (h ▸ member)

/-- The text is prose throughout: it does not begin with a byte order mark, and without the blanks around
it does not open with the mark of a block. -/
structure IsProse (raw : String) : Prop where
  unmarked : raw.toList.head? ≠ some byteOrderMark
  plain : ¬ mark <+: Text.trimmed raw.toList

theorem content_of_isProse {raw : String} (throughout : IsProse raw) :
    content raw.toList = Text.trimmed raw.toList := by
  have inFront : raw.toList.dropWhile (· == byteOrderMark) = raw.toList := by
    cases chars : raw.toList with
    | nil => rfl
    | cons c rest =>
      have other := throughout.unmarked
      rw [chars, List.head?_cons, Ne, Option.some.injEq] at other
      exact List.dropWhile_cons_of_neg (by simpa using other)
  rw [content, inFront]

/-- **A document that is prose throughout** has no block, and its text is kept as it is. -/
theorem splitFrontMatter_of_isProse {raw : String} (throughout : IsProse raw) :
    splitFrontMatter raw = .ok ⟨none, String.ofList (Text.trimmed raw.toList)⟩ := by
  rw [(splitsAs raw).plain, content_of_isProse throughout]
  exact ⟨throughout.plain, rfl⟩

/-- The text behind a metadata block in which nothing stands. -/
def withEmptyBlock (raw : String) : String := "---\n---\n" ++ raw

/-- The line feed behind a closing mark is trimmed with the prose. -/
theorem prose_newline_cons (s : List Char) : prose ('\n' :: s) = slashed (Text.trimmed s) := by
  have blank : Text.allBlank ['\n'] = true := by decide
  have start : Text.trimStart ('\n' :: s) = Text.trimStart s :=
    Text.trimStart_append_of_allBlank blank s
  rw [prose, slashed, Text.trimmed, Text.trimmed, start]

/-- **A document behind an empty block** has that block, and its backslashes become slashes. -/
theorem splitFrontMatter_withEmptyBlock (raw : String) :
    splitFrontMatter (withEmptyBlock raw) =
      .ok ⟨some "\n", String.ofList (slashed (Text.trimmed raw.toList))⟩ := by
  have text : (withEmptyBlock raw).toList = assembled "\n".toList ('\n' :: raw.toList) := by
    rw [withEmptyBlock, String.toList_append]
    rfl
  rw [← prose_newline_cons]
  exact (splitFrontMatter_assembled_iff text).2 (by decide)

end Document

namespace Story

open Document

/-! ### What they contain -/

theorem contentsOf_of_isProse {raw : String} (throughout : IsProse raw) :
    contentsOf raw = (String.ofList (Text.trimmed raw.toList), {}) := by
  unfold contentsOf
  rw [splitFrontMatter_of_isProse throughout]
  rfl

theorem contentsOf_withEmptyBlock (raw : String) :
    contentsOf (withEmptyBlock raw) =
      (String.ofList (slashed (Text.trimmed raw.toList)), {}) := by
  refine contentsOf_of_block (splitFrontMatter_withEmptyBlock raw) fun metadata => ?_
  refine eq_empty_of_ofText fun entries read => ?_
  have blank : Text.isBlankText "\n" = true := by decide
  rw [readEntries, if_pos blank] at read
  exact (Except.ok.inj read).symm

/-! ### What becomes of them -/

variable {source : Source}

theorem text_nodeOf_of_isProse (throughout : IsProse source.raw) :
    (nodeOf source).text = String.ofList (Text.trimmed source.raw.toList) := by
  simp only [nodeOf, insertionOf, contentsOf_of_isProse throughout]

/-- **An empty metadata block in front of prose** makes its backslashes slashes, and changes nothing
else. -/
theorem insertionOf_withEmptyBlock (throughout : IsProse source.raw) (revisitDefault : Bool) :
    insertionOf revisitDefault { source with raw := withEmptyBlock source.raw } =
      { insertionOf revisitDefault source with
        node := { nodeOf source with
          text := String.ofList (slashed (nodeOf source).text.toList) } } := by
  rw [text_nodeOf_of_isProse throughout, String.toList_ofList]
  simp only [insertionOf, nodeOf, contentsOf_of_isProse throughout, contentsOf_withEmptyBlock]

/-- **An empty metadata block in front of prose is neutral** exactly when there is no backslash in the
prose.  It makes a slash of every backslash, and changes nothing else. -/
theorem ofSources_emptyBlock (revisitDefault : Bool) (before after : List Source) (source : Source)
    (throughout : IsProse source.raw) :
    (Graph.ofSources revisitDefault
          (before ++ { source with raw := withEmptyBlock source.raw } :: after) =
        Graph.ofSources revisitDefault (before ++ source :: after) ↔
      '\\' ∉ source.raw.toList) ∧
    insertionOf revisitDefault { source with raw := withEmptyBlock source.raw } =
      { insertionOf revisitDefault source with
        node := { nodeOf source with
          text := String.ofList (slashed (nodeOf source).text.toList) } } := by
  refine ⟨?_, insertionOf_withEmptyBlock throughout revisitDefault⟩
  have kept : slashed (Text.trimmed source.raw.toList) = Text.trimmed source.raw.toList ↔
      '\\' ∉ source.raw.toList := by
    rw [slashed_eq_self_iff, Text.mem_trimmed_iff (by decide)]
  rw [← kept]
  constructor
  · intro same
    have blocked := congrArg (·.node.text) (insertionOf_withEmptyBlock throughout revisitDefault)
    rw [node_insertionOf, nodeOf_eq_of_ofSources_eq same, text_nodeOf_of_isProse throughout,
      String.toList_ofList] at blocked
    exact (String.ofList_injective blocked).symm
  · intro same
    refine ofSources_congr ?_ revisitDefault before after
    rw [contentsOf_withEmptyBlock, contentsOf_of_isProse throughout, same]

/-- A passage with a marker that is written with a backslash, and one with a marker that is written with a
slash. -/
def backslashedShake : Source := .ofId "a.md" "The floor gives way.\n\\shake"

@[inherit_doc backslashedShake]
def slashedShake : Source := .ofId "b.md" " - The floor gives way.\n/shake "

theorem emptyBlock_shakes :
    Graph.ofSources true
        [backslashedShake, { slashedShake with raw := withEmptyBlock slashedShake.raw }] =
      Graph.ofSources true [backslashedShake, slashedShake] ∧
    Graph.ofSources true [{ backslashedShake with raw := withEmptyBlock backslashedShake.raw }] ≠
      Graph.ofSources true [backslashedShake] ∧
    (nodeOf { backslashedShake with raw := withEmptyBlock backslashedShake.raw }).text =
      "The floor gives way.\n/shake" := by
  have slashedProse : IsProse slashedShake.raw := ⟨by decide, by decide⟩
  have backslashedProse : IsProse backslashedShake.raw := ⟨by decide, by decide⟩
  obtain ⟨neutral, -⟩ := ofSources_emptyBlock true [backslashedShake] [] slashedShake slashedProse
  obtain ⟨changed, text⟩ := ofSources_emptyBlock true [] [] backslashedShake backslashedProse
  refine ⟨neutral.2 (by decide), fun same => absurd (changed.1 same) (by decide), ?_⟩
  rw [nodeOf, text]
  decide +kernel

/-- **An empty metadata block is not neutral** in front of all prose. -/
theorem ofSources_emptyBlock_ne :
    (¬ ∀ (revisitDefault : Bool) (sourceId raw : String),
      byteOrderMark ∉ raw.toList → ¬ mark <+: Text.trimmed raw.toList →
        Graph.ofSources revisitDefault [.ofId sourceId raw] =
          Graph.ofSources revisitDefault [.ofId sourceId ("---\n---\n" ++ raw)]) ∧
    (Graph.ofSources true [.ofId "a.md" "\\shake"]).nodes.map (·.text) = ["\\shake"] ∧
    (Graph.ofSources true [.ofId "a.md" ("---\n---\n" ++ "\\shake")]).nodes.map (·.text) =
      ["/shake"] := by
  have alone :
      (Graph.ofSources true [.ofId "a.md" "\\shake"]).nodes.map (·.text) = ["\\shake"] := by
    decide +kernel
  have behind :
      (Graph.ofSources true [.ofId "a.md" ("---\n---\n" ++ "\\shake")]).nodes.map (·.text) =
        ["/shake"] := by decide +kernel
  refine ⟨fun claimed => ?_, alone, behind⟩
  rw [← claimed true "a.md" "\\shake" (by decide) (by decide), alone] at behind
  exact absurd behind (by decide)

end Story

end Gamebook
