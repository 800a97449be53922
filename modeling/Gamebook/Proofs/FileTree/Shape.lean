import Gamebook.FileTree.Changes
import Mathlib.Data.List.Infix
import Mathlib.Data.List.Nodup

/-!
# What a change does to a file tree

A directory is known by what is in it, so whatever is changed in a tree, every directory on the way
to the change is another one than before.  What a program sees of a tree is less: at a location
there is a file with its bytes, or a directory, or nothing.  That is the *shape* of the tree, and to
change one location is to change the shape there and nowhere else (`Entry.find?_alter_self`,
`Entry.shape_find?_alter_of_not_prefix`).

## Directories that list a name twice

The first of two entries of one name hides the second, until it is removed.  A file system has no
such directories, and that there are none is what `Distinct` says of an entry and of a tree.
Changes keep it.
-/

namespace Gamebook.FileTree

/-! ### Entries of a directory -/

namespace Entry

variable {change : Option Entry → Option Entry} {name : String} {entries : List (String × Entry)}

theorem findIn?_eq_none_iff : findIn? name entries = none ↔ name ∉ entries.map (·.1) := by
  induction entries with
  | nil => simp [findIn?]
  | cons entry rest ih =>
    rw [findIn?, List.map_cons, List.mem_cons, not_or]
    by_cases same : entry.1 = name
    · simp [same]
    · rw [if_neg same, ih]
      exact ⟨fun rest => ⟨Ne.symm same, rest⟩, fun h => h.2⟩

theorem mem_of_findIn?_eq_some {entry : Entry} :
    ∀ {entries : List (String × Entry)}, findIn? name entries = some entry → (name, entry) ∈ entries
  | [], found => by simp [findIn?] at found
  | (first, inner) :: rest, found => by
    by_cases same : first = name
    · subst same
      rw [findIn?, if_pos rfl, Option.some.injEq] at found
      exact found ▸ List.mem_cons_self
    · rw [findIn?, if_neg same] at found
      exact List.mem_cons_of_mem _ (mem_of_findIn?_eq_some found)

theorem findIn?_of_mem {entry : Entry} :
    ∀ {entries : List (String × Entry)}, (entries.map (·.1)).Nodup → (name, entry) ∈ entries →
      findIn? name entries = some entry
  | [], _, member => absurd member List.not_mem_nil
  | (first, inner) :: rest, distinct, member => by
    obtain ⟨fresh, distinct⟩ := List.nodup_cons.1 distinct
    rcases List.mem_cons.1 member with same | member
    · obtain ⟨rfl, rfl⟩ := Prod.mk.inj same
      rw [findIn?, if_pos rfl]
    · have other : first ≠ name := fun same =>
        fresh (same ▸ List.mem_map_of_mem (f := (·.1)) member)
      rw [findIn?, if_neg other]
      exact findIn?_of_mem distinct member

/-- **An entry is changed as the function says**, even if it is removed, where no name is listed
twice. -/
theorem findIn?_alterIn_of_nodup :
    ∀ {entries : List (String × Entry)}, (entries.map (·.1)).Nodup →
      findIn? name (alterIn name change entries) = change (findIn? name entries)
  | [], _ => by
    cases made : change none <;> simp [alterIn, findIn?, made]
  | (first, entry) :: rest, distinct => by
    obtain ⟨fresh, distinct⟩ := List.nodup_cons.1 distinct
    by_cases same : first = name
    · subst same
      rw [alterIn, if_pos rfl, findIn?, if_pos rfl]
      cases changed : change (some entry) with
      | none => simpa using findIn?_eq_none_iff.2 fresh
      | some entry => simp [findIn?]
    · rw [alterIn, if_neg same, findIn?, if_neg same, findIn?, if_neg same]
      exact findIn?_alterIn_of_nodup distinct

theorem mem_names_of_mem_alterIn {other : String} :
    ∀ {entries : List (String × Entry)}, other ∈ (alterIn name change entries).map (·.1) →
      other = name ∨ other ∈ entries.map (·.1)
  | [], member => by
    cases made : change none with
    | none => simp [alterIn, made] at member
    | some entry => exact .inl (by simpa [alterIn, made] using member)
  | (first, entry) :: rest, member => by
    rw [alterIn] at member
    split at member
    · next same =>
      rw [List.map_append, List.mem_append] at member
      rcases member with changed | member
      · cases made : change (some entry) with
        | none => simp [made] at changed
        | some changed' => exact .inl (same ▸ by simpa [made] using changed)
      · exact .inr (List.mem_cons_of_mem _ member)
    · rcases List.mem_cons.1 member with same | member
      · exact .inr (same ▸ List.mem_cons_self)
      · exact (mem_names_of_mem_alterIn member).imp_right (List.mem_cons_of_mem _)

theorem nodup_alterIn :
    ∀ {entries : List (String × Entry)}, (entries.map (·.1)).Nodup →
      ((alterIn name change entries).map (·.1)).Nodup
  | [], _ => by
    cases made : change none <;> simp [alterIn, made]
  | (first, entry) :: rest, distinct => by
    obtain ⟨fresh, distinct'⟩ := List.nodup_cons.1 distinct
    rw [alterIn]
    split
    · next same =>
      cases made : change (some entry) with
      | none => simpa using distinct'
      | some changed => exact distinct
    · next other =>
      refine List.nodup_cons.2 ⟨fun again => ?_, nodup_alterIn distinct'⟩
      exact (mem_names_of_mem_alterIn again).elim other fresh

end Entry

/-! ### Shapes -/

/-- What a program sees of an entry without looking into it. -/
inductive Shape where
  /-- There is a file of these bytes. -/
  | file (content : ByteArray)
  /-- There is a directory. -/
  | directory

/-- The bytes that are seen. -/
def Shape.content? : Shape → Option ByteArray
  | file content => some content
  | directory => none

/-- What is seen of an entry. -/
def Entry.shape : Entry → Shape
  | .file content => .file content
  | .directory _ => .directory

namespace Entry

/-- No directory in the entry lists a name twice. -/
def Distinct (entry : Entry) : Prop :=
  ∀ location entries, entry.find? location = some (.directory entries) → (entries.map (·.1)).Nodup

theorem distinct_file (content : ByteArray) : (file content).Distinct := by
  intro location entries found
  cases location with
  | nil => exact absurd found (by simp)
  | cons name rest => exact absurd found (by simp [find?])

theorem find?_cons_directory (name : String) (location : Location)
    (entries : List (String × Entry)) :
    (directory entries).find? (name :: location) = (findIn? name entries).bind (find? location) := rfl

theorem distinct_directory_iff {entries : List (String × Entry)} :
    (directory entries).Distinct ↔
      (entries.map (·.1)).Nodup ∧ ∀ name entry, findIn? name entries = some entry → entry.Distinct := by
  constructor
  · intro distinct
    refine ⟨distinct [] entries rfl, fun name entry found location inner there => ?_⟩
    refine distinct (name :: location) inner ?_
    rw [find?_cons_directory, found]
    exact there
  · rintro ⟨nodup, inner⟩ (_ | ⟨name, location⟩) others found
    · cases found
      exact nodup
    · rw [find?_cons_directory, Option.bind_eq_some_iff] at found
      obtain ⟨entry, there, found⟩ := found
      exact inner name entry there location others found

theorem distinct_directory {entries : List (String × Entry)} (nodup : (entries.map (·.1)).Nodup)
    (inner : entries.Forall fun child => child.2.Distinct) : (directory entries).Distinct :=
  distinct_directory_iff.2 ⟨nodup, fun _ _ found =>
    List.forall_iff_forall_mem.1 inner _ (mem_of_findIn?_eq_some found)⟩

/-! ### Changing an entry -/

theorem alter_cons (change : Option Entry → Option Entry) (name : String) {location : Location}
    (below : location ≠ []) (entries : List (String × Entry)) :
    (directory entries).alter change (name :: location) =
      directory (alterIn name (Option.map (alter change location)) entries) := by
  cases location with
  | nil => exact absurd rfl below
  | cons next rest => rfl

/-- **A change keeps names apart** if what it puts in has them apart. -/
theorem Distinct.alter (made : ∀ entry? new, change entry? = some new → new.Distinct) :
    ∀ (location : Location) {entry : Entry}, entry.Distinct → (entry.alter change location).Distinct
  | [], entry, distinct => by
    rw [Entry.alter]
    cases changed : change (some entry) with
    | none => exact distinct
    | some new => exact made _ new changed
  | _ :: _, file content, _ => distinct_file content
  | name :: location, directory entries, distinct => by
    obtain ⟨nodup, inner⟩ := distinct_directory_iff.1 distinct
    -- The change is made in this directory or in one below, and both are an `alterIn` here.
    have law : ∀ change' : Option Entry → Option Entry,
        (∀ new, change' (findIn? name entries) = some new → new.Distinct) →
          (directory (alterIn name change' entries)).Distinct := by
      refine fun change' made' =>
        distinct_directory_iff.2 ⟨nodup_alterIn nodup, fun other new found => ?_⟩
      by_cases same : other = name
      · subst same
        rw [findIn?_alterIn_of_nodup nodup] at found
        exact made' new found
      · rw [findIn?_alterIn_of_ne change' same] at found
        exact inner other new found
    by_cases below : location = []
    · subst below
      exact law change fun new changed => made _ new changed
    · rw [alter_cons change name below]
      refine law _ fun new changed => ?_
      obtain ⟨old, found, rfl⟩ := Option.map_eq_some_iff.1 changed
      exact Distinct.alter made location (inner name old found)

/-- **What is changed at a name of a directory** is found there, with what is below it. -/
theorem find?_alter_self (change : Option Entry → Option Entry) (name : String) (below : Location) :
    ∀ (outer : Location) {entry : Entry}, entry.Distinct →
      (entry.find? outer).map shape = some .directory →
      (entry.alter change (outer ++ [name])).find? (outer ++ name :: below) =
        (change (entry.find? (outer ++ [name]))).bind (find? below)
  | [], file content, _, isDirectory => by simp [shape] at isDirectory
  | [], directory entries, distinct, _ => by
    rw [List.nil_append, List.nil_append, Entry.alter, find?_cons_directory, find?_cons_directory,
      findIn?_alterIn_of_nodup (distinct_directory_iff.1 distinct).1]
    cases findIn? name entries <;> rfl
  | first :: outer, file content, _, isDirectory => by simp [find?] at isDirectory
  | first :: outer, directory entries, distinct, isDirectory => by
    obtain ⟨nodup, inner⟩ := distinct_directory_iff.1 distinct
    rw [List.cons_append, List.cons_append, alter_cons change first (by simp), find?_cons_directory,
      find?_cons_directory, findIn?_alterIn_of_nodup nodup]
    rw [find?_cons_directory] at isDirectory
    cases found : findIn? first entries with
    | none => simp [found] at isDirectory
    | some entry =>
      rw [found] at isDirectory
      exact find?_alter_self change name below outer (inner first entry found) isDirectory

/-- **Elsewhere the shape stays**, of the directories on the way to the change too. -/
theorem shape_find?_alter_of_not_prefix (change : Option Entry → Option Entry) :
    ∀ {location other : Location} {entry : Entry}, entry.Distinct → ¬ location <+: other →
      ((entry.alter change location).find? other).map shape = (entry.find? other).map shape
  | [], _, _, _, apart => absurd List.nil_prefix apart
  | _ :: _, _, file _, _, _ => rfl
  | _ :: location, [], directory entries, _, _ => by
    cases location <;> rfl
  | name :: location, other :: below, directory entries, distinct, apart => by
    obtain ⟨nodup, inner⟩ := distinct_directory_iff.1 distinct
    by_cases same : other = name
    · subst same
      have apart' : ¬ location <+: below := fun within =>
        apart ((List.prefix_cons_inj other).2 within)
      have further : location ≠ [] := fun none => apart' (none ▸ List.nil_prefix)
      rw [alter_cons change other further, find?_cons_directory, find?_cons_directory,
        findIn?_alterIn_of_nodup nodup]
      cases found : findIn? other entries with
      | none => rfl
      | some entry => exact shape_find?_alter_of_not_prefix change (inner other entry found) apart'
    · cases location with
      | nil =>
        rw [Entry.alter, find?_cons_directory, find?_cons_directory, findIn?_alterIn_of_ne change same]
      | cons next location =>
        rw [alter_cons change name (by simp), find?_cons_directory, find?_cons_directory,
          findIn?_alterIn_of_ne _ same]

/-! ### Listing files -/

mutual

/-- **The files that are listed are those that are found**, each at its location. -/
theorem mem_files_iff : ∀ {entry : Entry}, entry.Distinct → ∀ {outer location : Location}
    {content : ByteArray}, (location, content) ∈ entry.files outer ↔
      ∃ inner, location = outer ++ inner ∧ entry.find? inner = some (.file content)
  | file bytes, _, outer, location, content => by
    rw [files, List.mem_singleton]
    constructor
    · intro same
      obtain ⟨rfl, rfl⟩ := Prod.mk.inj same
      exact ⟨[], (List.append_nil _).symm, rfl⟩
    · rintro ⟨_ | ⟨name, inner⟩, rfl, found⟩
      · cases found
        rw [List.append_nil]
      · simp [find?] at found
  | directory entries, distinct, outer, location, content => by
    obtain ⟨nodup, inner⟩ := distinct_directory_iff.1 distinct
    rw [files, mem_filesIn_iff nodup fun name entry member =>
      inner name entry (findIn?_of_mem nodup member)]
    constructor
    · rintro ⟨name, below, entry, rfl, member, found⟩
      refine ⟨name :: below, rfl, ?_⟩
      rw [find?_cons_directory, findIn?_of_mem nodup member]
      exact found
    · rintro ⟨_ | ⟨name, below⟩, rfl, found⟩
      · cases found
      · rw [find?_cons_directory, Option.bind_eq_some_iff] at found
        obtain ⟨entry, there, found⟩ := found
        exact ⟨name, below, entry, rfl, mem_of_findIn?_eq_some there, found⟩

theorem mem_filesIn_iff : ∀ {entries : List (String × Entry)}, (entries.map (·.1)).Nodup →
    (∀ name entry, (name, entry) ∈ entries → entry.Distinct) → ∀ {outer location : Location}
    {content : ByteArray}, (location, content) ∈ filesIn outer entries ↔
      ∃ name below entry, location = outer ++ name :: below ∧ (name, entry) ∈ entries ∧
        entry.find? below = some (.file content)
  | [], _, _, _, _, _ => by simp [filesIn]
  | (first, inner) :: rest, nodup, distinct, outer, location, content => by
    rw [filesIn, List.mem_append, mem_files_iff (distinct first inner List.mem_cons_self),
      mem_filesIn_iff (List.nodup_cons.1 nodup).2 fun name entry member =>
        distinct name entry (List.mem_cons_of_mem _ member)]
    constructor
    · rintro (⟨below, rfl, found⟩ | ⟨name, below, entry, rfl, member, found⟩)
      · exact ⟨first, below, inner, by simp, List.mem_cons_self, found⟩
      · exact ⟨name, below, entry, rfl, List.mem_cons_of_mem _ member, found⟩
    · rintro ⟨name, below, entry, rfl, member, found⟩
      rcases List.mem_cons.1 member with same | member
      · obtain ⟨rfl, rfl⟩ := Prod.mk.inj same
        exact .inl ⟨below, by simp, found⟩
      · exact .inr ⟨name, below, entry, rfl, member, found⟩

end

mutual

/-- **No file is listed twice.** -/
theorem nodup_files : ∀ {entry : Entry}, entry.Distinct → ∀ outer : Location,
    ((entry.files outer).map (·.1)).Nodup
  | file _, _, _ => List.nodup_singleton _
  | directory _, distinct, outer => by
    obtain ⟨nodup, inner⟩ := distinct_directory_iff.1 distinct
    rw [files]
    exact nodup_filesIn nodup (fun name entry member => inner name entry (findIn?_of_mem nodup member))
      outer

theorem nodup_filesIn : ∀ {entries : List (String × Entry)}, (entries.map (·.1)).Nodup →
    (∀ name entry, (name, entry) ∈ entries → entry.Distinct) → ∀ outer : Location,
    ((filesIn outer entries).map (·.1)).Nodup
  | [], _, _, _ => List.nodup_nil
  | (first, inner) :: rest, nodup, distinct, outer => by
    obtain ⟨fresh, nodup⟩ := List.nodup_cons.1 nodup
    have here := distinct first inner List.mem_cons_self
    have later := fun name entry member => distinct name entry (List.mem_cons_of_mem _ member)
    rw [filesIn, List.map_append, List.nodup_append]
    refine ⟨nodup_files here _, nodup_filesIn nodup later outer, ?_⟩
    -- A file below the first entry has the name of that entry on the way to it, and no later one.
    rintro _ below _ below' rfl
    obtain ⟨⟨_, content⟩, listed, rfl⟩ := List.mem_map.1 below
    obtain ⟨⟨_, content'⟩, listed', same⟩ := List.mem_map.1 below'
    obtain ⟨_, rfl, -⟩ := (mem_files_iff here).1 listed
    obtain ⟨name, _, entry, rfl, member, -⟩ := (mem_filesIn_iff nodup later).1 listed'
    rw [List.append_assoc, List.singleton_append] at same
    obtain rfl := (List.cons.inj (List.append_cancel_left same)).1
    exact fresh (List.mem_map_of_mem (f := (·.1)) member)

end

end Entry

/-! ### The shape of a tree -/

variable {tree : FileTree}

/-- What a program sees at a location. -/
def shapeAt? (tree : FileTree) (location : Location) : Option Shape :=
  (tree.entryAt? location).map Entry.shape

/-- The bytes of the file at a location. -/
def fileAt? (tree : FileTree) (location : Location) : Option ByteArray :=
  (tree.entryAt? location).bind Entry.content?

/-- No directory of the tree lists a name twice. -/
def Distinct (tree : FileTree) : Prop := tree.root.Distinct

/-- Nor does any directory in it, if it is looked at alone. -/
theorem Distinct.of_entryAt? {location : Location} {entry : Entry} (distinct : tree.Distinct)
    (found : tree.entryAt? location = some entry) : entry.Distinct := fun inner entries there =>
  distinct (location ++ inner) entries (by rw [Entry.find?_append, ← entryAt?, found]; exact there)

theorem hasDirectory_iff {location : Location} :
    tree.hasDirectory location = true ↔ tree.shapeAt? location = some .directory := by
  rw [hasDirectory, shapeAt?]
  rcases tree.entryAt? location with _ | (_ | _) <;> simp [Entry.isDirectory, Entry.shape]

theorem hasDirectory_iff_exists {location : Location} :
    tree.hasDirectory location = true ↔
      ∃ entries, tree.entryAt? location = some (.directory entries) := by
  rw [hasDirectory]
  rcases tree.entryAt? location with _ | (_ | _) <;> simp [Entry.isDirectory]

theorem fileAt?_eq_some_iff {location : Location} {content : ByteArray} :
    tree.fileAt? location = some content ↔ tree.shapeAt? location = some (.file content) := by
  rw [fileAt?, shapeAt?]
  rcases tree.entryAt? location with _ | (_ | _) <;> simp [Entry.content?, Entry.shape]

theorem fileAt?_eq_bind_shapeAt? (tree : FileTree) (location : Location) :
    tree.fileAt? location = (tree.shapeAt? location).bind Shape.content? := by
  rw [fileAt?, shapeAt?]
  rcases tree.entryAt? location with _ | (_ | _) <;> rfl

theorem shapeAt?_eq_none_iff {location : Location} :
    tree.shapeAt? location = none ↔ tree.entryAt? location = none :=
  Option.map_eq_none_iff

theorem entryAt?_eq_file_iff {location : Location} {content : ByteArray} :
    tree.entryAt? location = some (.file content) ↔ tree.fileAt? location = some content := by
  rw [fileAt?]
  rcases tree.entryAt? location with _ | (_ | _) <;> simp [Entry.content?]

/-- There is nothing below a location without a directory. -/
theorem shapeAt?_append_of_not_directory {location : Location}
    (noDirectory : tree.shapeAt? location ≠ some .directory) {below : Location} (further : below ≠ []) :
    tree.shapeAt? (location ++ below) = none := by
  obtain ⟨name, below, rfl⟩ := List.exists_cons_of_ne_nil further
  rw [shapeAt?] at noDirectory
  rw [shapeAt?_eq_none_iff, entryAt?, Entry.find?_append]
  rcases found : tree.root.find? location with _ | (_ | _)
  · rfl
  · rfl
  · simp [entryAt?, found, Entry.shape] at noDirectory

instance : LawfulBEq ByteArray where
  eq_of_beq {a b} same := ByteArray.ext (eq_of_beq (show (a.data == b.data) = true from same))
  rfl {a} := show (a.data == a.data) = true from beq_self_eq_true _

/-- **The files that are new or have other bytes** are those found in the later tree and not, with
those bytes, in the earlier one. -/
theorem mem_changedFiles_iff {before after : FileTree} (distinct : after.Distinct)
    {location : Location} {content : ByteArray} :
    (location, content) ∈ changedFiles before after ↔
      after.fileAt? location = some content ∧ before.fileAt? location ≠ some content := by
  rw [changedFiles, List.mem_filter, Entry.mem_files_iff distinct, bne_iff_ne,
    ← entryAt?_eq_file_iff]
  simp [entryAt?, fileAt?]

theorem changedFiles_eq_nil_iff {before after : FileTree} (distinct : after.Distinct) :
    changedFiles before after = [] ↔
      ∀ location content, after.fileAt? location = some content →
        before.fileAt? location = some content := by
  rw [List.eq_nil_iff_forall_not_mem, Prod.forall]
  refine forall₂_congr fun location content => ?_
  rw [mem_changedFiles_iff distinct, not_and, not_not]

end Gamebook.FileTree
