import Gamebook.Text.Blank

/-!
# Source documents

A story is authored as documents, each under a source id: its path relative to the root of the story,
with `/` between the parts.  The id alone decides which group the document belongs to.  A document
directly under the root makes a group of its own, named after the file without its extension; a
document in a directory is one of the variants of the group that the directory names, and only the
innermost directory counts.
-/

namespace Gamebook.Document

/-! ### Group names -/

/-- The parts of a path between the slashes, empty parts left out. -/
def pathParts (path : List Char) : List (List Char) :=
  (path.splitOn '/').filter fun part => !part.isEmpty

/-- A file name without its extension: what stands before the last dot, unless that is nothing. -/
def stem (file : List Char) : List Char :=
  match file.reverse.dropWhile (· ≠ '.') with
  | [] => file
  | _ :: before => if before.isEmpty then file else before.reverse

/-- The name of the group that the path of a document puts it into. -/
def groupNameOfPath (path : List Char) : List Char :=
  match (pathParts path).reverse with
  | [] => []
  | [file] => stem file
  | _ :: directory :: _ => directory

/-- The name of the group that a source id puts its document into. -/
def groupName (sourceId : String) : String := String.ofList (groupNameOfPath sourceId.toList)

/-! ### Documents -/

/-- A story document as it was authored. -/
structure Source where
  /-- The path of the document relative to the root of the story. -/
  sourceId : String
  /-- The name of the group that the document is a variant of. -/
  group : String
  /-- The whole text of the document. -/
  raw : String
  deriving DecidableEq, Repr

/-- The document under a source id, in the group that the id names. -/
def Source.ofId (sourceId raw : String) : Source := ⟨sourceId, groupName sourceId, raw⟩

@[simp] theorem Source.group_ofId (sourceId raw : String) :
    (Source.ofId sourceId raw).group = groupName sourceId := rfl

@[simp] theorem Source.sourceId_ofId (sourceId raw : String) :
    (Source.ofId sourceId raw).sourceId = sourceId := rfl

end Gamebook.Document
