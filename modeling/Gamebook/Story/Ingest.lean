import Gamebook.Document.FrontMatter
import Gamebook.Document.Metadata
import Gamebook.Document.Source
import Gamebook.Story.Graph

/-!
# From documents to the graph

Every document becomes one variant, whatever is wrong with it.  A document that cannot be split is
prose throughout, and a metadata block that cannot be read counts as empty; the prose is kept in
either case.  What a document becomes depends on that document alone, and the graph is made by
inserting the variants in the order of the documents.
-/

namespace Gamebook.Story

open Gamebook.Document

/-- The prose and the metadata of a document. -/
def contentsOf (raw : String) : String × Metadata :=
  match splitFrontMatter raw with
  | .error .unterminated => (Text.trim raw, {})
  | .ok parts =>
    let metadata :=
      match parts.metadata?.map Metadata.ofText with
      | some (.ok metadata) => metadata
      | some (.error _) => {}
      | none => {}
    (parts.body, metadata)

/-- The insertion that a document calls for. -/
def insertionOf (revisitDefault : Bool) (source : Source) : Graph.Insertion :=
  let (body, metadata) := contentsOf source.raw
  { node :=
      { sourceId := source.sourceId
        group := source.group
        text := body
        choices := metadata.choices
        style := metadata.style
        revisit? := metadata.revisit? }
    said := metadata.said
    revisitDefault }

@[simp] theorem sourceId_insertionOf (revisitDefault : Bool) (source : Source) :
    (insertionOf revisitDefault source).node.sourceId = source.sourceId := rfl

@[simp] theorem group_insertionOf (revisitDefault : Bool) (source : Source) :
    (insertionOf revisitDefault source).node.group = source.group := rfl

/-- The graph of a list of documents. -/
def Graph.ofSources (revisitDefault : Bool) (sources : List Source) : Graph :=
  Graph.ofInsertions (sources.map (insertionOf revisitDefault))

end Gamebook.Story
