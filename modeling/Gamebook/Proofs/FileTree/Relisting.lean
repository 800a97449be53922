import Gamebook.Proofs.FileTree.Operations

/-!
# Directories that list their entries in another order

In which order a directory hands out its entries is not for the one who reads it to say, and it may be
another one the next time, in this directory and in every directory below it.  `Relisted` is said of two
entries that differ in nothing else, and of two trees.

What is seen of a tree does not depend on it: where no name is listed twice, each location has a file
with the same bytes, or a directory, or nothing, before and after (`Relisted.shapeAt?_eq`).  Paths lead
where they led, since a path is followed by what is seen (`Relisted.locate_eq`).

Trees in which directories list no name twice may still have names in them that no file system has.
`WellNamed` excludes these as well: an entry with an empty name, or with a slash in its name, would be
reached by a path that leads to another one.
-/

namespace Gamebook.FileTree

/-! ### Names of entries -/

/-- A name that an entry can have. -/
structure Path.IsName (name : String) : Prop where
  /-- There is something in it. -/
  nonempty : name ≠ ""
  /-- It is one segment of a path. -/
  whole : '/' ∉ name.toList

instance (name : String) : Decidable (Path.IsName name) :=
  decidable_of_iff (name ≠ "" ∧ '/' ∉ name.toList) ⟨fun h => ⟨h.1, h.2⟩, fun h => ⟨h.1, h.2⟩⟩

namespace Entry

variable {entry other : Entry} {entries others before after : List (String × Entry)} {name : String}

/-- An entry as file systems have them. -/
structure WellNamed (entry : Entry) : Prop where
  /-- No directory lists a name twice. -/
  distinct : entry.Distinct
  /-- Everything in it has a name that entries can have. -/
  names : ∀ location, entry.find? location ≠ none → ∀ name ∈ location, Path.IsName name

theorem wellNamed_file (content : ByteArray) : (file content).WellNamed where
  distinct := distinct_file content
  names location found := by
    cases location with
    | nil => simp
    | cons name location => exact absurd rfl found

theorem wellNamed_directory (nodup : (entries.map (·.1)).Nodup)
    (inner : entries.Forall fun child => Path.IsName child.1 ∧ child.2.WellNamed) :
    (directory entries).WellNamed where
  distinct := distinct_directory nodup (inner.imp fun _ child => child.2.distinct)
  names location found := by
    cases location with
    | nil => simp
    | cons name location =>
      rw [find?_cons_directory] at found
      cases there : findIn? name entries with
      | none => exact absurd (by rw [there]; rfl) found
      | some entry =>
        obtain ⟨isName, wellNamed⟩ :=
          List.forall_iff_forall_mem.1 inner _ (mem_of_findIn?_eq_some there)
        rw [there] at found
        exact List.forall_mem_cons.2 ⟨isName, wellNamed.names location found⟩

/-! ### Other orders -/

/-- One entry is another one in which directories list their entries in another order. -/
inductive Relisted : Entry → Entry → Prop where
  /-- Nothing need be listed in another order. -/
  | refl (entry : Entry) : Relisted entry entry
  /-- The directory lists its own entries in another order. -/
  | here {entries others : List (String × Entry)} (perm : entries.Perm others) :
      Relisted (directory entries) (directory others)
  /-- An entry of the directory is relisted. -/
  | within {before after : List (String × Entry)} {name : String} {entry other : Entry}
      (inner : Relisted entry other) :
      Relisted (directory (before ++ (name, entry) :: after))
        (directory (before ++ (name, other) :: after))
  /-- It is done more than once. -/
  | trans {first second third : Entry} (start : Relisted first second)
      (next : Relisted second third) : Relisted first third

/-! ### What is found in other orders -/

theorem findIn?_of_perm (perm : entries.Perm others) (nodup : (entries.map (·.1)).Nodup)
    (name : String) : findIn? name others = findIn? name entries := by
  cases found : findIn? name entries with
  | none =>
    rw [findIn?_eq_none_iff] at found ⊢
    exact mt (perm.map _).mem_iff.2 found
  | some entry =>
    exact findIn?_of_mem ((perm.map _).nodup_iff.1 nodup)
      (perm.mem_iff.1 (mem_of_findIn?_eq_some found))

theorem findIn?_middle_of_ne {wanted : String} (ne : wanted ≠ name) (entry : Entry) :
    ∀ before : List (String × Entry),
      findIn? wanted (before ++ (name, entry) :: after) = findIn? wanted (before ++ after)
  | [] => by rw [List.nil_append, List.nil_append, findIn?, if_neg ne.symm]
  | (first, inner) :: before => by
    rw [List.cons_append, List.cons_append, findIn?, findIn?, findIn?_middle_of_ne ne entry before]

theorem findIn?_middle (nodup : ((before ++ (name, entry) :: after).map (·.1)).Nodup) :
    findIn? name (before ++ (name, entry) :: after) = some entry :=
  findIn?_of_mem nodup (by simp)

/-- Another entry lists no name twice either, and is seen as the entry is. -/
structure SeenAs (entry other : Entry) : Prop where
  /-- No directory in the other entry lists a name twice. -/
  distinct : other.Distinct
  /-- At each location there is a file with the same bytes, or a directory, or nothing in both. -/
  seen : ∀ location, (other.find? location).map shape = (entry.find? location).map shape

theorem SeenAs.refl (distinct : entry.Distinct) : entry.SeenAs entry := ⟨distinct, fun _ => rfl⟩

theorem SeenAs.trans {third : Entry} (first : entry.SeenAs other) (next : other.SeenAs third) :
    entry.SeenAs third :=
  ⟨next.distinct, fun location => (next.seen location).trans (first.seen location)⟩

/-- Directories are seen alike if their entries are. -/
theorem seenAs_directory (nodup : (others.map (·.1)).Nodup)
    (children : ∀ name, Option.Rel SeenAs (findIn? name entries) (findIn? name others)) :
    (directory entries).SeenAs (directory others) where
  distinct := distinct_directory_iff.2 ⟨nodup, fun name child found => by
    have alike := children name
    rw [found] at alike
    generalize findIn? name entries = child? at alike
    cases alike with
    | some alike => exact alike.distinct⟩
  seen
    | [] => rfl
    | name :: location => by
      have alike := children name
      rw [find?_cons_directory, find?_cons_directory]
      generalize findIn? name entries = child?, findIn? name others = other? at alike
      cases alike with
      | none => rfl
      | some alike => exact alike.seen location

theorem seenAs_findIn? (distinct : (directory entries).Distinct) (name : String) :
    Option.Rel SeenAs (findIn? name entries) (findIn? name entries) := by
  cases found : findIn? name entries with
  | none => exact .none
  | some entry => exact .some (.refl ((distinct_directory_iff.1 distinct).2 name entry found))

/-- **A relisted entry is seen as before.** -/
theorem Relisted.seenAs (relisted : entry.Relisted other) (distinct : entry.Distinct) :
    entry.SeenAs other := by
  induction relisted with
  | refl => exact .refl distinct
  | here perm =>
    have nodup := (distinct_directory_iff.1 distinct).1
    refine seenAs_directory ((perm.map _).nodup_iff.1 nodup) fun name => ?_
    rw [findIn?_of_perm perm nodup]
    exact seenAs_findIn? distinct name
  | @within before after name entry other _ ih =>
    obtain ⟨nodup, inner⟩ := distinct_directory_iff.1 distinct
    have nodup' : ((before ++ (name, other) :: after).map (·.1)).Nodup := by simpa using nodup
    refine seenAs_directory nodup' fun wanted => ?_
    by_cases same : wanted = name
    · subst same
      rw [findIn?_middle nodup, findIn?_middle nodup']
      exact .some (ih (inner wanted entry (findIn?_middle nodup)))
    · have elsewhere : findIn? wanted (before ++ (name, other) :: after) =
          findIn? wanted (before ++ (name, entry) :: after) :=
        (findIn?_middle_of_ne same other before).trans (findIn?_middle_of_ne same entry before).symm
      rw [elsewhere]
      exact seenAs_findIn? distinct wanted
  | trans _ _ ih ih' => exact (ih distinct).trans (ih' (ih distinct).distinct)

end Entry

/-! ### Trees -/

variable {tree other : FileTree}

/-- A tree as file systems have them. -/
def WellNamed (tree : FileTree) : Prop := tree.root.WellNamed

theorem WellNamed.distinct (wellNamed : tree.WellNamed) : tree.Distinct :=
  Entry.WellNamed.distinct wellNamed

theorem WellNamed.isName (wellNamed : tree.WellNamed) {location : Location}
    (found : tree.entryAt? location ≠ none) : ∀ name ∈ location, Path.IsName name :=
  Entry.WellNamed.names wellNamed location found

/-- One tree is another one in which directories list their entries in another order. -/
structure Relisted (tree other : FileTree) : Prop where
  /-- So is the root directory. -/
  root : tree.root.Relisted other.root
  /-- Paths start in the same directory. -/
  workingDirectory : other.workingDirectory = tree.workingDirectory

namespace Relisted

theorem distinct (relisted : tree.Relisted other) (distinct : tree.Distinct) : other.Distinct :=
  (relisted.root.seenAs distinct).distinct

/-- **A relisted tree is seen as before.** -/
theorem shapeAt?_eq (relisted : tree.Relisted other) (distinct : tree.Distinct)
    (location : Location) : other.shapeAt? location = tree.shapeAt? location :=
  (relisted.root.seenAs distinct).seen location

theorem fileAt?_eq (relisted : tree.Relisted other) (distinct : tree.Distinct)
    (location : Location) : other.fileAt? location = tree.fileAt? location := by
  rw [fileAt?_eq_bind_shapeAt?, fileAt?_eq_bind_shapeAt?, relisted.shapeAt?_eq distinct]

theorem hasDirectory_eq (relisted : tree.Relisted other) (distinct : tree.Distinct)
    (location : Location) : other.hasDirectory location = tree.hasDirectory location := by
  rw [Bool.eq_iff_iff, hasDirectory_iff, hasDirectory_iff, relisted.shapeAt?_eq distinct]

theorem entryAt?_eq_none_iff (relisted : tree.Relisted other) (distinct : tree.Distinct)
    (location : Location) : other.entryAt? location = none ↔ tree.entryAt? location = none := by
  rw [← shapeAt?_eq_none_iff, ← shapeAt?_eq_none_iff, relisted.shapeAt?_eq distinct]

theorem wellNamed (relisted : tree.Relisted other) (wellNamed : tree.WellNamed) : other.WellNamed where
  distinct := relisted.distinct wellNamed.distinct
  names location found :=
    wellNamed.isName (mt (relisted.entryAt?_eq_none_iff wellNamed.distinct location).2 found)

theorem enter_eq (relisted : tree.Relisted other) (distinct : tree.Distinct) (location : Location)
    (segment : String) : other.enter location segment = tree.enter location segment := by
  have missing := relisted.entryAt?_eq_none_iff distinct (location ++ [segment])
  rw [enter, enter, relisted.hasDirectory_eq distinct]
  cases found : tree.entryAt? (location ++ [segment]) with
  | none => rw [missing.2 found]
  | some entry =>
    obtain ⟨entry', found'⟩ := Option.ne_none_iff_exists'.1
      (mt missing.1 (Option.ne_none_iff_exists'.2 ⟨entry, found⟩))
    rw [found']

/-- **Paths lead where they led.** -/
theorem locate_eq (relisted : tree.Relisted other) (distinct : tree.Distinct) (path : String) :
    other.locate path = tree.locate path := by
  have follow_eq : ∀ (segments : List String) (location : Location),
      other.follow location segments = tree.follow location segments := by
    intro segments
    induction segments with
    | nil => exact fun location => rfl
    | cons segment rest ih =>
      intro location
      rw [follow_cons, follow_cons, relisted.enter_eq distinct]
      exact congrArg _ (funext ih)
  rw [locate, locate, start, start, relisted.workingDirectory, follow_eq]

end Relisted

end Gamebook.FileTree
