import Gamebook.FileTree.Basic

/-!
# Media

A file tree is kept somewhere, and more can go wrong there than the tree shows: there may be no room left,
or no permission.  A medium tells which operations it refuses, and why.  An operation that is not refused
does what the tree says, and one that is refused changes nothing.

A file is written by three operations, so that a medium may refuse a later one after it has allowed those
before: the file is created without content, its bytes are written, and they are made to last.

A run of the program works on a picture of the files, and that is a medium which refuses nothing.
-/

namespace Gamebook.FileTree

/-- What a program asks of the operating system in order to change a tree. -/
inductive Operation where
  /-- Make a directory. -/
  | makeDirectory (path : String)
  /-- Create a file without content. -/
  | createFile (path : String)
  /-- Write the bytes of a file that was created. -/
  | fillFile (path : String) (content : ByteArray)
  /-- Make the bytes of a file last. -/
  | syncFile (path : String)
  /-- Move a file over another path. -/
  | moveFile (source path : String)
  /-- Remove a file. -/
  | removeFile (path : String)

/-- The tree after an operation that is not refused. -/
def perform (tree : FileTree) : Operation → Except Failure FileTree
  | .makeDirectory path => tree.makeDirectory path
  | .createFile path => tree.writeFile path .empty
  | .fillFile path content => tree.writeFile path content
  | .syncFile _ => .ok tree
  | .moveFile source path => tree.moveFile source path
  | .removeFile path => tree.removeFile path

/-- Where a tree is kept. -/
structure Medium where
  /-- The cause for which an operation on a tree is refused, if it is. -/
  refusal? : FileTree → Operation → Option Failure

namespace Medium

/-- Nothing is refused. -/
def sound : Medium := ⟨fun _ _ => none⟩

/-- The tree after an operation. -/
def perform (medium : Medium) (tree : FileTree) (operation : Operation) : Except Failure FileTree :=
  match medium.refusal? tree operation with
  | some failure => .error failure
  | none => tree.perform operation

/-- The tree in which all directories on a path exist, given the ancestors of that path.  A directory
whose own directory is missing is made after it.  What was made before a failure stays. -/
def makeDirectories (medium : Medium) (tree : FileTree) :
    (ancestors : List String) → FileTree × Except Failure Unit
  | [] => (tree, .ok ())
  | path :: outer =>
    match medium.perform tree (.makeDirectory path) with
    | .ok made => (made, .ok ())
    | .error .notFound =>
      match medium.makeDirectories tree outer with
      | (made, .error failure) => (made, .error failure)
      | (made, .ok ()) =>
        match medium.perform made (.makeDirectory path) with
        | .ok made => (made, .ok ())
        | .error failure => (made, if made.isDirectory path then .ok () else .error failure)
    | .error failure => (tree, if tree.isDirectory path then .ok () else .error failure)

/-- Files can be removed, if the tree says so. -/
def Removes (medium : Medium) : Prop := ∀ tree path, medium.refusal? tree (.removeFile path) = none

theorem removes_sound : sound.Removes := fun _ _ => rfl

/-- **An operation that succeeds was not refused.** -/
theorem perform_eq_ok {medium : Medium} {tree after : FileTree} {operation : Operation}
    (ok : medium.perform tree operation = .ok after) : tree.perform operation = .ok after := by
  rw [perform] at ok
  split at ok
  · cases ok
  · exact ok

theorem Removes.perform_eq {medium : Medium} (removes : medium.Removes) (tree : FileTree)
    (path : String) : medium.perform tree (.removeFile path) = tree.removeFile path := by
  rw [perform, removes]
  rfl

end Medium

/-- The tree in which all directories on a path exist, given the ancestors of that path. -/
def makeDirectories (tree : FileTree) (ancestors : List String) : FileTree × Except Failure Unit :=
  Medium.sound.makeDirectories tree ancestors

end Gamebook.FileTree
