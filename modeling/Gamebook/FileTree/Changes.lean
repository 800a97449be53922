import Gamebook.FileTree.Basic

/-!
# Changes of a file tree

What is different after a program ran: the files that are new or have other bytes, and the directories
that are new.
-/

namespace Gamebook.FileTree

mutual

/-- The directories in an entry that is at a location, the outer ones first. -/
def Entry.directories (location : Location) : Entry → List Location
  | .file _ => []
  | .directory entries => location :: Entry.directoriesIn location entries

/-- The directories in the entries of a directory at a location. -/
def Entry.directoriesIn (location : Location) : List (String × Entry) → List Location
  | [] => []
  | (name, entry) :: rest =>
    Entry.directories (location ++ [name]) entry ++ Entry.directoriesIn location rest

end

/-- The files that are new in a tree or have other bytes than before. -/
def changedFiles (before after : FileTree) : List (Location × ByteArray) :=
  (after.root.files []).filter fun file =>
    ((before.entryAt? file.1).bind Entry.content?) != some file.2

/-- The directories that are new in a tree, the outer ones first. -/
def newDirectories (before after : FileTree) : List Location :=
  (after.root.directories []).filter fun location => !before.hasDirectory location

end Gamebook.FileTree
