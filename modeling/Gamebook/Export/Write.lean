import Gamebook.Decimal.Numeral
import Gamebook.Digest.Sha256
import Gamebook.Export.Document
import Gamebook.FileTree.Medium

/-!
# Writing the story document

The document is written as a whole or not at all: the directories on the way are made, the text is
written to a temporary file beside the path, and that file is moved over the path.  Where a step fails,
the temporary file is removed, so that nothing but directories is left of the attempt, and a file that
was at the path before is still there.

The name of the temporary file is the path with a stamp behind it, which the caller makes sure is
fresh.  If it could not be created, it is removed all the same, and most often there is nothing to remove.
-/

namespace Gamebook.Export

open Gamebook.FileTree Gamebook.Story

/-- Why a document could not be written. -/
structure WriteError where
  /-- The path of the operation that failed. -/
  path : String
  /-- The cause. -/
  failure : Failure
  deriving DecidableEq, Repr

/-- What is said of a document that could not be written. -/
def WriteError.message (error : WriteError) : String :=
  "failed to write " ++ error.path ++ ": " ++ error.failure.message

/-- What is told of a document that was written. -/
structure Written where
  /-- Where it was written. -/
  path : String
  /-- The digest of its bytes. -/
  digest : String
  /-- The number of its bytes. -/
  bytes : Nat
  deriving DecidableEq, Repr

/-- What is told of a text that was written to a path. -/
def Written.ofText (path text : String) : Written where
  path := path
  digest := Digest.sha256 text.toUTF8.toList
  bytes := text.utf8ByteSize

/-- The path of the temporary file for a path. -/
def temporaryPath (path stamp : String) : String := path ++ ".tmp." ++ stamp

/-- The tree without a temporary file, if it can be removed. -/
def discard (medium : Medium) (tree : FileTree) (temporary : String) : FileTree :=
  match medium.perform tree (.removeFile temporary) with
  | .ok cleared => cleared
  | .error _ => tree

/-- A text written to a temporary file, and the tree after the last operation that succeeded. -/
def stage (medium : Medium) (tree : FileTree) (temporary text : String) :
    FileTree × Except Failure Unit :=
  match medium.perform tree (.createFile temporary) with
  | .error failure => (tree, .error failure)
  | .ok created =>
    match medium.perform created (.fillFile temporary text.toUTF8) with
    | .error failure => (created, .error failure)
    | .ok filled =>
      match medium.perform filled (.syncFile temporary) with
      | .error failure => (filled, .error failure)
      | .ok synced => (synced, .ok ())

/-- A text written to a path whose directory exists. -/
def replaceFile (medium : Medium) (tree : FileTree) (stamp path text : String) :
    FileTree × Except WriteError Unit :=
  let temporary := temporaryPath path stamp
  match stage medium tree temporary text with
  | (staged, .error failure) => (discard medium staged temporary, .error ⟨temporary, failure⟩)
  | (staged, .ok ()) =>
    match medium.perform staged (.moveFile temporary path) with
    | .error failure => (discard medium staged temporary, .error ⟨path, failure⟩)
    | .ok moved => (moved, .ok ())

/-- The directories that a path needs. -/
def makeParents (medium : Medium) (tree : FileTree) (path : String) :
    FileTree × Except WriteError Unit :=
  match Path.parent? path with
  | none => (tree, .ok ())
  | some parent =>
    if parent.isEmpty then (tree, .ok ())
    else
      let (made, result) := medium.makeDirectories tree (Path.ancestors path).tail
      (made, result.mapError fun failure => ⟨parent, failure⟩)

/-- The document of a story written to a path on a medium. -/
def writeDocumentOn (medium : Medium) (tree : FileTree) (stamp path : String) (graph : Graph) :
    FileTree × Except WriteError Written :=
  let text := renderDocument graph
  match makeParents medium tree path with
  | (made, .error error) => (made, .error error)
  | (made, .ok ()) =>
    let (replaced, result) := replaceFile medium made stamp path text
    (replaced, result.map fun _ => .ofText path text)

/-- The document of a story written to a path. -/
def writeDocument (tree : FileTree) (stamp path : String) (graph : Graph) :
    FileTree × Except WriteError Written :=
  writeDocumentOn .sound tree stamp path graph

end Gamebook.Export
