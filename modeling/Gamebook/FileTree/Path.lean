/-!
# Paths

A path is a text whose segments stand between slashes.  Empty segments and the segment `.` name
nothing, except that a path may start with `.`; a path that starts with a slash starts at the root.

The ancestors of a path are the paths of what it leads through, the path itself first.  They are parts
of the text as it was written: `a//b/c` is in `a//b`, and `x/` is in the directory that the empty path
stands for.
-/

namespace Gamebook.FileTree.Path

/-- The segments of a path, in order. -/
def segments (path : String) : List String := (path.toList.splitOn '/').map String.ofList

/-- The segment names nothing. -/
def isVoid (segment : String) : Bool := segment.isEmpty || segment == "."

/-- The path starts at the root. -/
def isAbsolute (path : String) : Bool := path.toList.head? == some '/'

/-- The path that ends with a file name in a directory. -/
def join (directory name : String) : String :=
  if directory.isEmpty || directory.toList.getLast? == some '/' then directory ++ name
  else directory ++ "/" ++ name

/-! ### Ancestors -/

/-- The part of a path that its segments are counted after: the root, or the segment `.` that the path
starts with, or nothing. -/
def head (path : String) : String :=
  match path.toList with
  | '/' :: _ => "/"
  | ['.'] => "."
  | '.' :: '/' :: _ => "."
  | _ => ""

/-- The ancestors below a head, given the segments in reverse. -/
def ancestorsBelow (head : String) : (reversed : List String) → List String
  | [] => if head.isEmpty then [] else [head]
  | segment :: rest =>
    if isVoid segment then ancestorsBelow head rest
    else (head ++ "/".intercalate (segment :: rest).reverse) :: ancestorsBelow head rest

/-- The paths of what a path leads through, the path itself first. -/
def ancestors (path : String) : List String :=
  let body := String.ofList (path.toList.drop (head path).length)
  ancestorsBelow (head path) (segments body).reverse

/-- The path of the directory that something is in; the root and the empty path are in none. -/
def parent? (path : String) : Option String :=
  match ancestors path with
  | [] => none
  | [outermost] => if outermost == "/" then none else some ""
  | _ :: parent :: _ => some parent

/-! ### File names -/

/-- The file name ends with the extension, which has no dot in it, and there is something in front of
the dot before it. -/
def hasExtension (extension name : String) : Bool :=
  let ending := '.' :: extension.toList
  ending.isSuffixOf name.toList && ending.length < name.length

end Gamebook.FileTree.Path
