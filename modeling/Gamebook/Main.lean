import Gamebook.Command.Sight
import Gamebook.FileTree.Changes

/-!
# The program

The outermost layer.  It takes a picture of the files that the run looks at, lets the run work on the
picture, and carries over to the files what changed in it.
-/

namespace Gamebook

open FileTree Command

/-- The picture in which there is nothing but the way to the directory that paths start in. -/
def blankPicture : IO FileTree := do
  let location := (Path.segments (← IO.currentDir).toString).filter fun name => !name.isEmpty
  let root := location.foldr (fun name entry => Entry.directory [(name, entry)]) (.directory [])
  return ⟨root, location⟩

/-- The picture after an operation, or as it was if that fails. -/
def afterOr (tree : FileTree) : Except Failure FileTree → FileTree
  | .ok changed => changed
  | .error _ => tree

/-- The picture with what is at a path, provided the way to it is in the picture.  Files whose content
is not asked for are drawn empty. -/
def draw (tree : FileTree) (path : String) (content : Bool) : IO FileTree := do
  if tree.hasEntry path then return tree
  let place := (← IO.currentDir) / path
  if ← place.isDir then return afterOr tree (tree.makeDirectory path)
  if ← place.pathExists then
    let bytes ← if content then IO.FS.readBinFile place else pure .empty
    return afterOr tree (tree.writeFile path bytes)
  return tree

/-- The picture with a path and the way to it. -/
def drawPath (tree : FileTree) (path : String) : IO FileTree :=
  (Path.ancestors path).reverse.foldlM (fun tree ancestor => draw tree ancestor true) tree

/-- The picture with all that is in a directory which is in the picture. -/
partial def drawDirectory (tree : FileTree) (path : String) : IO FileTree := do
  let place := (← IO.currentDir) / path
  if !(← place.isDir) then return tree
  (← place.readDir).foldlM (fun tree entry => do
    let inner := Path.join path entry.fileName
    let tree ← draw tree inner (Path.hasExtension Document.extension entry.fileName)
    drawDirectory tree inner) tree

/-- The picture with what is looked at of a path. -/
def look (tree : FileTree) (seen : Sight × String) : IO FileTree := do
  let tree ← drawPath tree seen.2
  match seen.1 with
  | .shallow => return tree
  | .deep => drawDirectory tree seen.2

/-- The picture of the files that a run with these options looks at. -/
def picture (options : Options) : IO FileTree := do
  let tree ← drawPath (← blankPicture) (settingsPath options)
  (pathsInSight tree options).foldlM look tree

/-- The path of a location. -/
def pathOf (location : FileTree.Location) : String := "/" ++ "/".intercalate location

/-- Carry over what changed in a picture. -/
def carryOver (stamp : String) (before after : FileTree) : IO Unit := do
  for location in newDirectories before after do
    IO.FS.createDir (pathOf location)
  for (location, content) in changedFiles before after do
    let path := pathOf location
    let temporary := Export.temporaryPath path stamp
    IO.FS.writeBinFile temporary content
    IO.FS.rename temporary path

end Gamebook

open Gamebook Gamebook.Command in
/-- Run the program. -/
def main (arguments : List String) : IO UInt32 := do
  let before ← match Request.ofArguments arguments with
    | .ok (.act _ options) => picture options
    | _ => blankPicture
  let stamp := toString (← IO.monoNanosNow)
  let (after, answer) := Command.run before stamp arguments
  carryOver stamp before after
  IO.print answer.output
  IO.eprint answer.errors
  return answer.exitCode.toUInt32
