import Gamebook.Proofs.Story.History
import Gamebook.Proofs.Story.StableOrder
import Gamebook.Story.Ingest

/-!
# What becomes of the documents

The graph of a list of documents is the graph of a history with one insertion for each of them, and what
a document adds to the history is read off that document alone.  This file says what follows: no document
is lost, whatever is wrong with it, and no document has a say in what becomes of another.

## The order of the variants

The variants of the graph are those of the documents in the order of the group names, and within a group
in the order of the documents: the stable order by groups.  Two things are known of a graph that make it
that (`eq_sortedBy`).  The table of its groups is in the order of the names, and the variants of a group
are those inserted into it.

## One document changed

Two lists of documents that differ in the text of one make histories that differ in one insertion.  For
the other groups that insertion does not count, so they are the same.  In the list of all variants the one
is exchanged for the other where it stands, since a stable order looks at the groups only
(`sortedBy_exchange`).

## Metadata that cannot be read

There are three ways for the metadata of a document to fail: its block is never closed, is not YAML, or is
no mapping.  `Unreadable` names them, with the text that is kept in each case.  They come to the same: the
document adds its text to the history and says nothing (`Unreadable.insertionOf_eq`).
-/

namespace Gamebook

namespace NameTable

variable {α β : Type}

theorem filter_flatMap_entries {f : α → List β} {key : β → String} (name : String) :
    ∀ {entries : List (String × α)}, NamesIncrease entries →
      (∀ entry ∈ entries, ∀ b ∈ f entry.2, key b = entry.1) →
      ((entries.flatMap fun entry => f entry.2).filter fun b => key b = name) =
        (findIn? name entries).elim [] f
  | [], _, _ => rfl
  | entry :: rest, increasing, keyed => by
    obtain ⟨first, later⟩ := List.pairwise_cons.1 increasing
    have here := keyed entry List.mem_cons_self
    have below := filter_flatMap_entries name later fun other member =>
      keyed other (List.mem_cons_of_mem _ member)
    rw [List.flatMap_cons, List.filter_append, below, findIn?]
    by_cases same : entry.1 = name
    · subst same
      rw [if_pos rfl, findIn?_eq_none_of_lt first,
        List.filter_eq_self.2 fun b member => decide_eq_true (here b member)]
      exact List.append_nil _
    · have none : (f entry.2).filter (fun b => key b = name) = [] :=
        List.filter_eq_nil_iff.2 fun b member h => same (here b member ▸ of_decide_eq_true h)
      rw [if_neg same, none, List.nil_append]

/-- **What is listed of the value under a name**, out of what is listed of all values, where each thing
listed says under which name it is. -/
theorem filter_flatMap_values {t : NameTable α} {f : α → List β} {key : β → String}
    (keyed : ∀ name value, t.find? name = some value → ∀ b ∈ f value, key b = name) (name : String) :
    ((t.values.flatMap f).filter fun b => key b = name) = (t.find? name).elim [] f := by
  rw [values, List.flatMap_map]
  refine filter_flatMap_entries name t.increasing fun entry member => ?_
  exact keyed entry.1 entry.2 (find?_eq_some_iff.2 member)

end NameTable

namespace Story

namespace Graph

/-! ### The variants of a history -/

variable {graph : Graph}

theorem pairwise_nodes (wf : graph.WellFormed) : graph.nodes.Pairwise fun a b => a.group ≤ b.group := by
  have named : ∀ entry ∈ graph.table.entries, ∀ node ∈ entry.2.variants, node.group = entry.1 :=
    fun entry member _ variant => wf.group_eq (NameTable.find?_eq_some_iff.2 member) variant
  rw [nodes, groups, NameTable.values, List.flatMap_map, List.pairwise_flatMap]
  constructor
  · intro entry member
    refine List.pairwise_of_forall_mem_list fun a inside b inside' => ?_
    have same : a.group = b.group :=
      (named entry member a inside).trans (named entry member b inside').symm
    exact same ▸ String.le_refl _
  · refine graph.table.increasing.imp_of_mem fun member member' below a inside b inside' => ?_
    rw [named _ member a inside, named _ member' b inside']
    exact Std.le_of_lt below

theorem filter_nodes (wf : graph.WellFormed) (name : String) :
    (graph.nodes.filter fun node => node.group = name) =
      (graph.find? name).elim [] (·.variants) :=
  NameTable.filter_flatMap_values (fun _ _ found _ variant => wf.group_eq found variant) name

/-- **The variants of a graph are those inserted, in the order of their groups** and otherwise in the
order of their insertion. -/
theorem nodes_ofInsertions (history : List Insertion) :
    (ofInsertions history).nodes = sortedBy (·.group) (history.map (·.node)) := by
  have wf := wellFormed_ofInsertions history
  refine eq_sortedBy (pairwise_nodes wf) fun name => ?_
  rw [filter_nodes wf, List.filter_map]
  show _ = (insertionsInto name history).map (·.node)
  cases found : (ofInsertions history).find? name with
  | some group => exact (recounts_of_find? found).variants_eq
  | none =>
    rw [find?_ofInsertions] at found
    cases into : insertionsInto name history with
    | nil => rfl
    | cons first rest =>
      rw [into, groupOf?] at found
      exact absurd found (by simp)

end Graph

open Gamebook.Document

/-! ### The variant of a document -/

/-- The variant that a document becomes. -/
def nodeOf (source : Source) : Node := (insertionOf true source).node

/-- The default of the group has no say in it. -/
@[simp] theorem node_insertionOf (revisitDefault : Bool) (source : Source) :
    (insertionOf revisitDefault source).node = nodeOf source := rfl

@[simp] theorem group_nodeOf (source : Source) : (nodeOf source).group = source.group := rfl

theorem map_node_insertionOf (revisitDefault : Bool) (sources : List Source) :
    (sources.map (insertionOf revisitDefault)).map (·.node) = sources.map nodeOf := by
  rw [List.map_map]
  rfl

/-! ### Metadata that counts for nothing -/

/-- The metadata of a document cannot be read, and what is kept of the document is the text. -/
inductive Unreadable (raw : String) : String → Prop where
  /-- The metadata block is never closed. -/
  | unterminated : splitFrontMatter raw = .error .unterminated → Unreadable raw (Text.trim raw)
  /-- The metadata block is not YAML. -/
  | notYaml {block body : String} {cause : Yaml.Error} :
    splitFrontMatter raw = .ok ⟨some block, body⟩ → Yaml.Value.read block = .error cause →
      Unreadable raw body
  /-- The metadata block is YAML, but not a mapping. -/
  | notMapping {block body : String} {value : Yaml.Value} :
    splitFrontMatter raw = .ok ⟨some block, body⟩ → Yaml.Value.read block = .ok value →
      (∀ entries, value ≠ .mapping entries) → Unreadable raw body

theorem contentsOf_of_block {raw block body : String}
    (split : splitFrontMatter raw = .ok ⟨some block, body⟩)
    (none : ∀ metadata, Metadata.ofText block = .ok metadata → metadata = {}) :
    contentsOf raw = (body, {}) := by
  unfold contentsOf
  rw [split]
  cases read : Metadata.ofText block with
  | ok metadata =>
    have empty := none metadata read
    simp [read, empty]
  | error cause => simp [read]

/-- A block that holds no entries says nothing. -/
theorem eq_empty_of_ofText {block : String} {metadata : Metadata}
    (entries : ∀ entries, readEntries block = .ok entries → entries = [])
    (read : Metadata.ofText block = .ok metadata) : metadata = {} := by
  rw [Metadata.ofText] at read
  cases h : readEntries block with
  | ok found =>
    rw [h, entries found h] at read
    exact (Except.ok.inj read).symm
  | error cause =>
    rw [h] at read
    exact absurd read (by simp [Except.map])

/-- **Of a document with metadata that cannot be read the text is kept**, and nothing else counts. -/
theorem Unreadable.contentsOf_eq {raw text : String} (unreadable : Unreadable raw text) :
    contentsOf raw = (text, {}) := by
  cases unreadable with
  | unterminated split =>
    unfold contentsOf
    rw [split]
  | notYaml split read =>
    refine contentsOf_of_block split fun metadata => eq_empty_of_ofText fun entries found => ?_
    unfold readEntries at found
    split at found
    · exact (Except.ok.inj found).symm
    · rw [read] at found
      exact absurd found (by simp)
  | notMapping split read other =>
    refine contentsOf_of_block split fun metadata => eq_empty_of_ofText fun entries found => ?_
    unfold readEntries at found
    split at found
    · exact (Except.ok.inj found).symm
    · rw [read] at found
      split at found
      · next same => exact absurd (Except.ok.inj same) (other _)
      · exact (Except.ok.inj found).symm
      · exact absurd found (by simp)
      · exact absurd found (by simp)

/-- **What a document with metadata that cannot be read adds to the history**: its text. -/
theorem Unreadable.insertionOf_eq {source : Source} {text : String}
    (unreadable : Unreadable source.raw text) (revisitDefault : Bool) :
    insertionOf revisitDefault source =
      { node := { sourceId := source.sourceId, group := source.group, text := text }
        revisitDefault := revisitDefault } := by
  rw [insertionOf, unreadable.contentsOf_eq]

/-! ### The graph of the documents -/

namespace Graph

theorem insertionsInto_map_insertionOf (revisitDefault : Bool) (sources : List Source)
    (name : String) :
    insertionsInto name (sources.map (insertionOf revisitDefault)) =
      (sources.filter fun source => source.group = name).map (insertionOf revisitDefault) := by
  rw [insertionsInto, List.filter_map]
  rfl

/-- **No document is lost**, doubled or put into another place. -/
theorem nodes_ofSources (revisitDefault : Bool) (sources : List Source) :
    (ofSources revisitDefault sources).nodes = sortedBy (·.group) (sources.map nodeOf) := by
  rw [ofSources, nodes_ofInsertions, map_node_insertionOf]

/-- **A group holds the variants of its own documents.** -/
theorem variants_of_find?_ofSources {revisitDefault : Bool} {sources : List Source} {name : String}
    {group : Group} (found : (ofSources revisitDefault sources).find? name = some group) :
    group.variants = (sources.filter fun source => source.group = name).map nodeOf := by
  rw [(recounts_of_find? found).variants_eq, insertionsInto_map_insertionOf, map_node_insertionOf]

theorem find?_ofSources_of_mem {revisitDefault : Bool} {sources : List Source} {source : Source}
    (member : source ∈ sources) :
    (ofSources revisitDefault sources).find? source.group =
      some (groupOf source.group revisitDefault
        ((sources.filter fun other => other.group = source.group).map
          (insertionOf revisitDefault))) := by
  rw [ofSources, find?_ofInsertions, insertionsInto_map_insertionOf]
  cases own : sources.filter fun other => other.group = source.group with
  | nil =>
    have inside : source ∈ sources.filter fun other => other.group = source.group :=
      List.mem_filter.2 ⟨member, by simp⟩
    rw [own] at inside
    exact absurd inside List.not_mem_nil
  | cons first rest => rfl

/-- Two graphs that differ in one variant of the group of a name, and in what was declared about that
group. -/
structure DiffersAt (name : String) (node node' : Node) (graph graph' : Graph) : Prop where
  /-- The groups have the same names. -/
  names : graph.table.names = graph'.table.names
  /-- Every other group is the same. -/
  elsewhere : ∀ other, other ≠ name → graph.find? other = graph'.find? other
  /-- Among all variants, the one stands where the other does. -/
  nodes : ∃ front back,
    graph.nodes = front ++ node :: back ∧ graph'.nodes = front ++ node' :: back
  /-- The group keeps its name, its default and all other variants. -/
  group : ∃ group group' front back,
    graph.find? name = some group ∧ graph'.find? name = some group' ∧
      group'.name = group.name ∧ group'.revisitDefault = group.revisitDefault ∧
      group.variants = front ++ node :: back ∧ group'.variants = front ++ node' :: back

theorem filter_append_cons_of_group (before after : List Source) (source : Source) :
    ((before ++ source :: after).filter fun other => other.group = source.group) =
      (before.filter fun other => other.group = source.group) ++
        source :: after.filter fun other => other.group = source.group := by
  rw [List.filter_append, List.filter_cons_of_pos (by simp)]

/-- A document has no say in the groups of others. -/
theorem find?_ofSources_exchange (revisitDefault : Bool) (before after : List Source)
    {source other : Source} (same : other.group = source.group) {name : String}
    (away : name ≠ source.group) :
    (ofSources revisitDefault (before ++ source :: after)).find? name =
      (ofSources revisitDefault (before ++ other :: after)).find? name := by
  rw [ofSources, ofSources, find?_ofInsertions, find?_ofInsertions, insertionsInto_map_insertionOf,
    insertionsInto_map_insertionOf, List.filter_append, List.filter_append,
    List.filter_cons_of_neg (by simp [away.symm]),
    List.filter_cons_of_neg (by simp [same, away.symm])]

/-- **The text of one document has no say in what becomes of another.** -/
theorem differsAt_ofSources (revisitDefault : Bool) (before after : List Source)
    {source other : Source} (same : other.group = source.group) :
    DiffersAt source.group (nodeOf source) (nodeOf other)
      (ofSources revisitDefault (before ++ source :: after))
      (ofSources revisitDefault (before ++ other :: after)) := by
  have found : (ofSources revisitDefault (before ++ source :: after)).find? source.group = _ :=
    find?_ofSources_of_mem (List.mem_append_right _ List.mem_cons_self)
  have found' : (ofSources revisitDefault (before ++ other :: after)).find? other.group = _ :=
    find?_ofSources_of_mem (List.mem_append_right _ List.mem_cons_self)
  rw [same] at found'
  refine ⟨?_, fun name => find?_ofSources_exchange revisitDefault before after same, ?_, ?_⟩
  · refine NameTable.names_eq_of_isSome_eq fun name => ?_
    by_cases here : name = source.group
    · subst here
      show ((ofSources _ _).find? _).isSome = ((ofSources _ _).find? _).isSome
      rw [found, found']
      rfl
    · exact congrArg Option.isSome (find?_ofSources_exchange revisitDefault before after same here)
  · rw [nodes_ofSources, nodes_ofSources, List.map_append, List.map_append, List.map_cons,
      List.map_cons]
    have keys : (nodeOf source).group = (nodeOf other).group := by
      rw [group_nodeOf, group_nodeOf, same]
    exact sortedBy_exchange keys _ _
  · refine ⟨_, _, (before.filter fun x => x.group = source.group).map nodeOf,
      (after.filter fun x => x.group = source.group).map nodeOf, found, found', ?_, ?_, ?_, ?_⟩
    · rw [name_groupOf, name_groupOf]
    · rw [revisitDefault_groupOf, revisitDefault_groupOf]
    · rw [variants_groupOf, map_node_insertionOf, filter_append_cons_of_group, List.map_append,
        List.map_cons]
    · rw [variants_groupOf, map_node_insertionOf, ← same, filter_append_cons_of_group,
        List.map_append, List.map_cons]

/-- **Every document becomes one variant, by itself.**  Whatever the documents hold, the variants of
their graph are one for each document, in the order of the groups and otherwise in that of the documents,
and each is in the group of its document.  Another text in one document changes its own variant and
what is declared about its own group, and nothing else.  A document with metadata that cannot be read
becomes a variant that has its text and says nothing. -/
theorem ofSources_lossless_and_local (revisitDefault : Bool) :
    (∀ sources, (ofSources revisitDefault sources).nodes =
        sortedBy (·.group) (sources.map nodeOf)) ∧
      (∀ sources name group, (ofSources revisitDefault sources).find? name = some group →
        group.variants = (sources.filter fun source => source.group = name).map nodeOf) ∧
      (∀ before source after raw,
        DiffersAt source.group (nodeOf source) (nodeOf { source with raw := raw })
          (ofSources revisitDefault (before ++ source :: after))
          (ofSources revisitDefault (before ++ { source with raw := raw } :: after))) ∧
      ∀ sources, ∀ source ∈ sources, ∀ text, Unreadable source.raw text →
        nodeOf source ∈ (ofSources revisitDefault sources).nodes ∧
          nodeOf source =
            { sourceId := source.sourceId, group := source.group, text := text } ∧
          (insertionOf revisitDefault source).said = {} := by
  refine ⟨nodes_ofSources revisitDefault, ?_, ?_, ?_⟩
  · exact fun sources name group found => variants_of_find?_ofSources found
  · exact fun before source after raw => differsAt_ofSources revisitDefault before after rfl
  · intro sources source member text unreadable
    have made := unreadable.insertionOf_eq revisitDefault
    refine ⟨?_, ?_, ?_⟩
    · rw [nodes_ofSources, (sortedBy_perm _ _).mem_iff]
      exact List.mem_map_of_mem member
    · rw [← node_insertionOf revisitDefault, made]
    · rw [made]

/-- Three documents: a block that is never closed, one that is not YAML, and one that is a mere text. -/
def brokenSources : List Source :=
  [.ofId "a.md" "---\nstart: true\nunterminated",
   .ofId "b.md" "---\nchoices: [oops\n---\nStill here",
   .ofId "c.md" "---\njust a text\n---\nProse"]

theorem eq_ok_of_toOption {ε α : Type} {start : Except ε α} {result : α}
    (found : start.toOption = some result) : start = .ok result := by
  cases start with
  | error cause => cases found
  | ok value => exact congrArg Except.ok (Option.some.inj found)

theorem exists_error_of_toOption {ε α : Type} {start : Except ε α}
    (missing : start.toOption.isNone = true) : ∃ cause, start = .error cause := by
  cases start with
  | error cause => exact ⟨cause, rfl⟩
  | ok value => cases missing

theorem unreadable_brokenSources : ∀ source ∈ brokenSources, ∃ text, Unreadable source.raw text := by
  have unterminated : Unreadable "---\nstart: true\nunterminated"
      (Text.trim "---\nstart: true\nunterminated") := by
    have failed : (splitFrontMatter "---\nstart: true\nunterminated").toOption.isNone = true := by
      decide +kernel
    obtain ⟨⟨⟩, split⟩ := exists_error_of_toOption failed
    exact .unterminated split
  have notYaml : Unreadable "---\nchoices: [oops\n---\nStill here" "Still here" := by
    have split : splitFrontMatter "---\nchoices: [oops\n---\nStill here" =
        .ok ⟨some "\nchoices: [oops\n", "Still here"⟩ := eq_ok_of_toOption (by decide +kernel)
    have failed : (Yaml.Value.read "\nchoices: [oops\n").toOption.isNone = true := by
      decide +kernel
    obtain ⟨cause, read⟩ := exists_error_of_toOption failed
    exact .notYaml split read
  have notMapping : Unreadable "---\njust a text\n---\nProse" "Prose" := by
    have split : splitFrontMatter "---\njust a text\n---\nProse" =
        .ok ⟨some "\njust a text\n", "Prose"⟩ := eq_ok_of_toOption (by decide +kernel)
    have kind : (Yaml.Value.read "\njust a text\n").toOption.map kindOf = some "string" := by
      decide +kernel
    obtain ⟨value, there, kind⟩ := Option.map_eq_some_iff.1 kind
    refine .notMapping split (eq_ok_of_toOption there) ?_
    rintro entries rfl
    exact absurd kind (by simp [kindOf])
  intro source member
  simp only [brokenSources, List.mem_cons, List.not_mem_nil, or_false] at member
  rcases member with rfl | rfl | rfl
  · exact ⟨_, unterminated⟩
  · exact ⟨_, notYaml⟩
  · exact ⟨_, notMapping⟩

theorem brokenSources_kept :
    ∀ source ∈ brokenSources, ∃ text, Unreadable source.raw text ∧
      nodeOf source ∈ (ofSources true brokenSources).nodes ∧
      nodeOf source = { sourceId := source.sourceId, group := source.group, text := text } ∧
      (insertionOf true source).said = {} := by
  intro source member
  obtain ⟨text, broken⟩ := unreadable_brokenSources source member
  exact ⟨text, broken,
    (ofSources_lossless_and_local true).2.2.2 brokenSources source member text broken⟩

end Graph

end Story

end Gamebook
