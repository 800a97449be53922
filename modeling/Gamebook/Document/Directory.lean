import Gamebook.Document.Source
import Gamebook.FileTree.Basic

/-!
# Documents in a directory

A story is the files under a directory, at any depth, whose names end in `.md`.  The source id of a
file is the way to it from the directory.  Whatever order a directory lists its entries in, the
documents are in the order of their ids.

A file that is no text cannot be read, and then the story cannot; other files do not matter.
-/

namespace Gamebook.Document

open Gamebook.FileTree

/-! ### Files of a story -/

/-- The extension of the files of a story. -/
def extension : String := "md"

/-- The files of a story in the entries of a directory, each with the way to it. -/
def storyFiles (entries : List (String × Entry)) : List (Location × ByteArray) :=
  (Entry.filesIn [] entries).filter fun file => file.1.getLast?.any (Path.hasExtension extension)

/-- The id of the file at the end of a way. -/
def sourceIdOf (way : Location) : String := "/".intercalate way

/-! ### Reading a story -/

/-- Why the documents under a root cannot be read. -/
inductive DirectoryError where
  /-- There is no directory. -/
  | missingRoot (root : String)
  /-- A file cannot be read. -/
  | read (path : String) (failure : Failure)
  deriving DecidableEq, Repr

/-- What is said of documents that cannot be read. -/
def DirectoryError.message : DirectoryError → String
  | missingRoot root => "story root not found: " ++ root
  | read path failure => "failed to read " ++ path ++ ": " ++ failure.message

/-- The document in a file under a root. -/
def sourceOfFile (root : String) (file : Location × ByteArray) : Except DirectoryError Source :=
  match textOf file.2 with
  | .ok raw => .ok (.ofId (sourceIdOf file.1) raw)
  | .error failure => .error (.read (file.1.foldl Path.join root) failure)

/-- The documents in the order of their ids. -/
def sortSources (sources : List Source) : List Source :=
  sources.mergeSort fun a b => a.sourceId ≤ b.sourceId

/-- The documents under a root, in the order of their ids. -/
def sourcesIn (tree : FileTree) (root : String) : Except DirectoryError (List Source) :=
  match tree.entries? root with
  | none => .error (.missingRoot root)
  | some entries => ((storyFiles entries).mapM (sourceOfFile root)).map sortSources

end Gamebook.Document
