/-!
# Entries

A file holds bytes, and a directory holds entries under names, in the order in which it happens to list
them.  A location is the list of the names that lead to an entry.  Entries are reached and changed by
their location, and only `alter` changes anything: it puts what a function makes of the entry at a
location in its place, and leaves every other entry of every directory alone.
-/

namespace Gamebook.FileTree

/-- A file or a directory. -/
inductive Entry where
  /-- A file with its bytes. -/
  | file (content : ByteArray)
  /-- A directory with its entries by name. -/
  | directory (entries : List (String × Entry))

instance : Inhabited Entry := ⟨.directory []⟩

/-- The names that lead to an entry. -/
abbrev Location : Type := List String

namespace Entry

/-! ### Reaching and changing entries -/

/-- The entry is a directory. -/
def isDirectory : Entry → Bool
  | file _ => false
  | directory _ => true

/-- The bytes of a file. -/
def content? : Entry → Option ByteArray
  | file content => some content
  | directory _ => none

/-- The entry of that name in a list of entries. -/
def findIn? (name : String) : List (String × Entry) → Option Entry
  | [] => none
  | (first, entry) :: rest => if first = name then some entry else findIn? name rest

/-- The entry of that name in a directory. -/
def child? (name : String) : Entry → Option Entry
  | file _ => none
  | directory entries => findIn? name entries

/-- The entry at a location. -/
def find? : Location → Entry → Option Entry
  | [], entry => some entry
  | name :: rest, entry => (entry.child? name).bind (find? rest)

/-- The entries with the one of that name changed, added or removed. -/
def alterIn (name : String) (change : Option Entry → Option Entry) :
    List (String × Entry) → List (String × Entry)
  | [] => ((change none).map fun entry => (name, entry)).toList
  | (first, entry) :: rest =>
    if first = name then ((change (some entry)).map fun entry => (first, entry)).toList ++ rest
    else (first, entry) :: alterIn name change rest

/-- The entry with what is at a location below it changed, added or removed.  A location whose directory
does not exist has nothing to change. -/
def alter (change : Option Entry → Option Entry) : Location → Entry → Entry
  | [], entry => (change (some entry)).getD entry
  | _ :: _, file content => file content
  | [name], directory entries => directory (alterIn name change entries)
  | name :: rest, directory entries => directory (alterIn name (Option.map (alter change rest)) entries)

mutual

/-- The files in an entry that is at a location, each with its own location. -/
def files (location : Location) : Entry → List (Location × ByteArray)
  | file content => [(location, content)]
  | directory entries => filesIn location entries

/-- The files in the entries of a directory at a location. -/
def filesIn (location : Location) : List (String × Entry) → List (Location × ByteArray)
  | [] => []
  | (name, entry) :: rest => files (location ++ [name]) entry ++ filesIn location rest

end

/-! ### Laws -/

@[simp] theorem find?_nil (entry : Entry) : entry.find? [] = some entry := rfl

@[simp] theorem child?_file (name : String) (content : ByteArray) :
    (file content).child? name = none := rfl

/-- A location below another is reached through it. -/
theorem find?_append (entry : Entry) (outer inner : Location) :
    entry.find? (outer ++ inner) = (entry.find? outer).bind (find? inner) := by
  induction outer generalizing entry with
  | nil => rfl
  | cons name outer ih =>
    rw [List.cons_append, find?, find?]
    cases entry.child? name with
    | none => rfl
    | some child => exact ih child

/-- **A change that removes nothing is found as it was made.** -/
theorem findIn?_alterIn_self {name : String} {change : Option Entry → Option Entry}
    (keeps : ∀ entry, change (some entry) ≠ none) :
    ∀ entries : List (String × Entry),
      findIn? name (alterIn name change entries) = change (findIn? name entries)
  | [] => by
    cases h : change none with
    | none => simp [alterIn, findIn?, h]
    | some entry => simp [alterIn, findIn?, h]
  | (first, entry) :: rest => by
    by_cases same : first = name
    · obtain ⟨changed, h⟩ := Option.ne_none_iff_exists'.1 (keeps entry)
      simp [alterIn, findIn?, same, h]
    · simp [alterIn, findIn?, same, findIn?_alterIn_self keeps rest]

/-- **Every other entry stays.** -/
theorem findIn?_alterIn_of_ne {name other : String} (change : Option Entry → Option Entry)
    (ne : other ≠ name) :
    ∀ entries : List (String × Entry),
      findIn? other (alterIn name change entries) = findIn? other entries
  | [] => by
    cases h : change none with
    | none => simp [alterIn, h]
    | some entry => simp [alterIn, findIn?, h, ne.symm]
  | (first, entry) :: rest => by
    by_cases same : first = name
    · cases h : change (some entry) with
      | none => simp [alterIn, findIn?, same, h, ne.symm]
      | some changed => simp [alterIn, findIn?, same, h, ne.symm]
    · by_cases found : first = other
      · simp [alterIn, findIn?, found, ne]
      · simp [alterIn, findIn?, same, found, findIn?_alterIn_of_ne change ne rest]

end Entry

end Gamebook.FileTree
