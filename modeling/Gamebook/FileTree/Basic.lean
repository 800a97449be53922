import Gamebook.FileTree.Entry
import Gamebook.FileTree.Failure
import Gamebook.FileTree.Path

/-!
# File trees

A file tree is the root directory and the directory that paths start in.  A path is followed segment by
segment: `.` stays, `..` goes up, and a name has to be there in a directory.  A path that ends in a
slash leads to a directory.

The operations that change a tree are those a program asks of the operating system: to make a directory,
to write a file that may be there already, to move a file over another one, and to remove a file.  Each
of them succeeds as a whole or fails with a cause and changes nothing, which is why a failed operation
has no tree to give back.
-/

namespace Gamebook

/-- The files and directories that a program can see. -/
structure FileTree where
  /-- The root directory. -/
  root : FileTree.Entry
  /-- The directory that paths start in unless they start at the root. -/
  workingDirectory : FileTree.Location

namespace FileTree

/-! ### Following paths -/

/-- The entry at a location. -/
def entryAt? (tree : FileTree) (location : Location) : Option Entry := tree.root.find? location

/-- There is a directory at the location. -/
def hasDirectory (tree : FileTree) (location : Location) : Bool :=
  (tree.entryAt? location).any (·.isDirectory)

/-- The longest name that an entry can have, in bytes. -/
def longestName : Nat := 255

/-- The longest path, in bytes. -/
def longestPath : Nat := 4095

/-- The location that segments lead to from a location. -/
def follow (tree : FileTree) : Location → (segments : List String) → Except Failure Location
  | location, [] => .ok location
  | location, segment :: rest =>
    if !tree.hasDirectory location then .error .notDirectory
    else if Path.isVoid segment then tree.follow location rest
    else if segment = ".." then tree.follow location.dropLast rest
    else if segment.utf8ByteSize > longestName then .error .nameTooLong
    else
      match tree.entryAt? (location ++ [segment]) with
      | none => .error .notFound
      | some _ => tree.follow (location ++ [segment]) rest

/-- Where a path starts. -/
def start (tree : FileTree) (path : String) : Location :=
  if Path.isAbsolute path then [] else tree.workingDirectory

/-- What is wrong with a path whatever the tree. -/
def fault? (path : String) : Option Failure :=
  if path.toList.contains '\x00' then some .nullInPath
  else if path.isEmpty then some .notFound
  else if path.utf8ByteSize > longestPath then some .nameTooLong
  else none

/-- The location that a path leads to. -/
def locate (tree : FileTree) (path : String) : Except Failure Location :=
  match fault? path with
  | some failure => .error failure
  | none => tree.follow (tree.start path) (Path.segments path)

/-- The entry that a path leads to. -/
def get (tree : FileTree) (path : String) : Except Failure Entry := do
  let location ← tree.locate path
  match tree.entryAt? location with
  | some entry => .ok entry
  | none => .error .notFound

/-! ### Reading -/

/-- There is something at the path. -/
def hasEntry (tree : FileTree) (path : String) : Bool := (tree.get path).toBool

/-- The entries of the directory that a path leads to. -/
def entries? (tree : FileTree) (path : String) : Option (List (String × Entry)) :=
  match tree.get path with
  | .ok (.directory entries) => some entries
  | _ => none

/-- There is a directory at the path. -/
def isDirectory (tree : FileTree) (path : String) : Bool := (tree.entries? path).isSome

/-- The text that the bytes of a file are. -/
def textOf (content : ByteArray) : Except Failure String :=
  match String.fromUTF8? content with
  | some text => .ok text
  | none => .error .notText

/-- The text of the file that a path leads to. -/
def readText (tree : FileTree) (path : String) : Except Failure String := do
  match (← tree.get path) with
  | .file content => textOf content
  | .directory _ => .error .isDirectory

/-! ### Changing -/

/-- The tree with the entry at a location put there. -/
def put (tree : FileTree) (location : Location) (entry : Entry) : FileTree :=
  { tree with root := tree.root.alter (fun _ => some entry) location }

/-- The tree without the entry at a location. -/
def erase (tree : FileTree) (location : Location) : FileTree :=
  { tree with root := tree.root.alter (fun _ => none) location }

/-- The last name of a path, in a directory that exists. -/
structure Target where
  /-- The directory. -/
  directory : Location
  /-- The last segment that is not empty, or nothing for the root. -/
  name? : Option String
  /-- The path ends in a slash. -/
  slash : Bool

/-- The directory and the last name of a path. -/
def target (tree : FileTree) (path : String) : Except Failure Target :=
  match fault? path with
  | some failure => .error failure
  | none => do
    let segments := (Path.segments path).filter fun segment => !segment.isEmpty
    let directory ← tree.follow (tree.start path) segments.dropLast
    if tree.hasDirectory directory then
      return ⟨directory, segments.getLast?, path.toList.getLast? == some '/'⟩
    else .error .notDirectory

/-- The location of a target whose name can be that of an entry; other names fail with the cause given
for them. -/
def Target.location (target : Target) (special : Failure) : Except Failure Location :=
  match target.name? with
  | none => .error special
  | some name =>
    if name = "." ∨ name = ".." then .error special
    else if name.utf8ByteSize > longestName then .error .nameTooLong
    else .ok (target.directory ++ [name])

/-- The tree with a new directory. -/
def makeDirectory (tree : FileTree) (path : String) : Except Failure FileTree := do
  let location ← (← tree.target path).location .alreadyThere
  match tree.entryAt? location with
  | some _ => .error .alreadyThere
  | none => .ok (tree.put location (.directory []))

/-- The tree with a file of that content, whether or not there was a file. -/
def writeFile (tree : FileTree) (path : String) (content : ByteArray) : Except Failure FileTree := do
  let target ← tree.target path
  if target.slash then .error .isDirectory
  else
    let location ← target.location .isDirectory
    if tree.hasDirectory location then .error .isDirectory
    else .ok (tree.put location (.file content))

/-- The tree in which a file has moved to another path, over a file that may be there. -/
def moveFile (tree : FileTree) (source path : String) : Except Failure FileTree := do
  let origin ← tree.locate source
  let target ← tree.target path
  let location ← target.location .busy
  if target.slash then .error .notDirectory
  else if tree.hasDirectory location then .error .isDirectory
  else
    match tree.entryAt? origin with
    | some entry => .ok ((tree.erase origin).put location entry)
    | none => .error .notFound

/-- The tree without a file. -/
def removeFile (tree : FileTree) (path : String) : Except Failure FileTree := do
  let location ← tree.locate path
  if tree.hasDirectory location then .error .isDirectory
  else .ok (tree.erase location)

end FileTree

end Gamebook
