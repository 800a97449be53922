import Gamebook.FileTree.Medium
import Gamebook.Proofs.FileTree.Shape

/-!
# File operations, by what is seen of them

Each operation that succeeds changes one location of the tree, or two if a file is moved.  This file
says which location that is, and what is seen there then: `Overwrites` is what changing one location
comes to, and there is one lemma for each operation.

## Paths before and after a change

A path is followed from directory to directory, and no operation of a program removes a directory.
So the directories that a path leads through are found again after any number of operations
(`Names.of_keeps`), and a path under which a file was written leads to that file as long as it is
there (`Names.locate_eq`).
-/

namespace Gamebook.FileTree

variable {tree after : FileTree}

/-! ### Changes of one location -/

/-- The tree with what stands under a name of a directory replaced, which is what `put` does, or
removed, which is what `erase` does. -/
def replace (tree : FileTree) (location : Location) (new? : Option Entry) : FileTree :=
  { tree with root := tree.root.alter (fun _ => new?) location }

/-- **What is replaced is seen at its location and nowhere else**, provided that there was no
directory and there is nothing in what is put there. -/
theorem shapeAt?_replace (distinct : tree.Distinct) {directory : Location} {name : String}
    (there : tree.hasDirectory directory = true)
    (free : tree.shapeAt? (directory ++ [name]) ≠ some .directory) (new? : Option Entry)
    (bare : ∀ below, below ≠ [] → new?.bind (Entry.find? below) = none) (other : Location) :
    (tree.replace (directory ++ [name]) new?).shapeAt? other =
      if other = directory ++ [name] then new?.map Entry.shape else tree.shapeAt? other := by
  by_cases within : directory ++ [name] <+: other
  · obtain ⟨below, rfl⟩ := within
    have found : (tree.replace (directory ++ [name]) new?).shapeAt? (directory ++ [name] ++ below) =
        (new?.bind (Entry.find? below)).map Entry.shape := by
      rw [shapeAt?, entryAt?, replace, List.append_assoc, List.singleton_append,
        Entry.find?_alter_self _ name below directory distinct (hasDirectory_iff.1 there)]
    rw [found]
    by_cases here : below = []
    · subst here
      rw [List.append_nil, if_pos rfl]
      cases new? <;> rfl
    · rw [bare below here, if_neg (by simpa using here), shapeAt?_append_of_not_directory free here]
      rfl
  · have other : other ≠ directory ++ [name] := fun same => within (same ▸ List.prefix_refl _)
    rw [if_neg other]
    exact Entry.shape_find?_alter_of_not_prefix _ distinct within

theorem Distinct.replace (distinct : tree.Distinct) (location : Location) {new? : Option Entry}
    (inner : ∀ entry, new? = some entry → entry.Distinct) : (tree.replace location new?).Distinct :=
  Entry.Distinct.alter (fun _ => inner) location distinct

/-! ### Following paths -/

/-- The location after one segment of a path. -/
def enter (tree : FileTree) (location : Location) (segment : String) : Except Failure Location :=
  if !tree.hasDirectory location then .error .notDirectory
  else if Path.isVoid segment then .ok location
  else if segment = ".." then .ok location.dropLast
  else if segment.utf8ByteSize > longestName then .error .nameTooLong
  else
    match tree.entryAt? (location ++ [segment]) with
    | none => .error .notFound
    | some _ => .ok (location ++ [segment])

theorem follow_cons (tree : FileTree) (location : Location) (segment : String) (rest : List String) :
    tree.follow location (segment :: rest) =
      (tree.enter location segment).bind fun next => tree.follow next rest := by
  rw [follow, enter]
  split <;> try rfl
  split <;> try rfl
  split <;> try rfl
  split <;> try rfl
  cases tree.entryAt? (location ++ [segment]) <;> rfl

theorem exists_of_bind_eq_ok {ε α β : Type} {start : Except ε α} {next : α → Except ε β}
    {result : β} (ok : start.bind next = .ok result) :
    ∃ middle, start = .ok middle ∧ next middle = .ok result := by
  cases start with
  | error failure => cases ok
  | ok middle => exact ⟨middle, rfl, ok⟩

theorem follow_append (tree : FileTree) (location : Location) (segments more : List String) :
    tree.follow location (segments ++ more) =
      (tree.follow location segments).bind fun next => tree.follow next more := by
  induction segments generalizing location with
  | nil => rfl
  | cons segment rest ih =>
    rw [List.cons_append, follow_cons, follow_cons]
    cases tree.enter location segment with
    | error failure => rfl
    | ok next => exact ih next

theorem hasDirectory_of_enter {location next : Location} {segment : String}
    (entered : tree.enter location segment = .ok next) : tree.hasDirectory location = true := by
  by_contra missing
  rw [enter, if_pos (by simpa using missing)] at entered
  cases entered

/-- What a path leads through is a directory, if it leads to one. -/
theorem hasDirectory_of_follow {location last : Location} {segments : List String}
    (followed : tree.follow location segments = .ok last) (there : tree.hasDirectory last = true) :
    tree.hasDirectory location = true := by
  cases segments with
  | nil => exact (Except.ok.inj followed).symm ▸ there
  | cons segment rest =>
    rw [follow_cons] at followed
    obtain ⟨next, entered, -⟩ := exists_of_bind_eq_ok followed
    exact hasDirectory_of_enter entered

/-- Segments that are empty lead nowhere else. -/
theorem enter_empty {location : Location} (there : tree.hasDirectory location = true) :
    tree.enter location "" = .ok location := by
  simp [enter, there, Path.isVoid]

theorem enter_of_keeps (kept : ∀ location, tree.hasDirectory location = true →
      after.hasDirectory location = true) {location next : Location} {segment : String}
    (entered : tree.enter location segment = .ok next) (there : tree.hasDirectory next = true) :
    after.enter location segment = .ok next := by
  have here := kept location (hasDirectory_of_enter entered)
  rw [enter, hasDirectory_of_enter entered] at entered
  rw [enter, here]
  split at entered
  · next wrong => cases wrong
  split at entered
  · next void => simpa [void] using entered
  split at entered
  · next void up =>
    rw [if_neg void, if_pos up]
    exact entered
  split at entered
  · cases entered
  · next void up short =>
    cases found : tree.entryAt? (location ++ [segment]) with
    | none => simp [found] at entered
    | some entry =>
      obtain rfl : location ++ [segment] = next := by simpa [found] using entered
      have still := hasDirectory_iff.1 (kept _ there)
      cases found' : after.entryAt? (location ++ [segment]) with
      | none => simp [shapeAt?, found'] at still
      | some entry' => simp [void, up, short]

/-- **A directory that a path leads to is found again** in a tree that has kept all directories. -/
theorem follow_of_keeps (kept : ∀ location, tree.hasDirectory location = true →
      after.hasDirectory location = true) {segments : List String} {location last : Location}
    (followed : tree.follow location segments = .ok last) (there : tree.hasDirectory last = true) :
    after.follow location segments = .ok last := by
  induction segments generalizing location with
  | nil => exact followed
  | cons segment rest ih =>
    rw [follow_cons] at followed ⊢
    obtain ⟨next, entered, followed⟩ := exists_of_bind_eq_ok followed
    rw [enter_of_keeps kept entered (hasDirectory_of_follow followed there)]
    exact ih followed

/-- Empty segments between the others do not matter on the way to a directory. -/
theorem follow_of_follow_filter {segments : List String} {location last : Location}
    (followed : tree.follow location (segments.filter fun segment => !segment.isEmpty) = .ok last)
    (there : tree.hasDirectory last = true) : tree.follow location segments = .ok last := by
  induction segments generalizing location with
  | nil => exact followed
  | cons segment rest ih =>
    rw [follow_cons]
    by_cases empty : segment.isEmpty = true
    · rw [List.filter_cons_of_neg (by simpa using empty)] at followed
      obtain rfl : segment = "" := String.isEmpty_iff.1 empty
      rw [enter_empty (hasDirectory_of_follow followed there)]
      exact ih followed
    · rw [List.filter_cons_of_pos (by simpa using empty), follow_cons] at followed
      obtain ⟨next, entered, followed⟩ := exists_of_bind_eq_ok followed
      rw [entered]
      exact ih followed

/-- A directory is in a directory. -/
theorem hasDirectory_dropLast {location : Location} (there : tree.hasDirectory location = true) :
    tree.hasDirectory location.dropLast = true := by
  rcases List.eq_nil_or_concat location with rfl | ⟨outer, name, rfl⟩
  · exact there
  · rw [List.concat_eq_append, List.dropLast_concat, hasDirectory_iff]
    by_contra missing
    rw [hasDirectory_iff, List.concat_eq_append,
      shapeAt?_append_of_not_directory missing (List.cons_ne_nil _ _)] at there
    cases there

/-- A segment that leads to something other than a directory is a name in one. -/
theorem eq_append_of_enter {location next : Location} {segment : String}
    (entered : tree.enter location segment = .ok next) (bare : tree.hasDirectory next = false) :
    next = location ++ [segment] := by
  have here := hasDirectory_of_enter entered
  rw [enter, here] at entered
  split at entered
  · next wrong => cases wrong
  split at entered
  · obtain rfl := Except.ok.inj entered
    exact absurd here (by simp [bare])
  split at entered
  · obtain rfl := Except.ok.inj entered
    exact absurd (hasDirectory_dropLast here) (by simp [bare])
  split at entered
  · cases entered
  · cases found : tree.entryAt? (location ++ [segment]) with
    | none => simp [found] at entered
    | some entry => simpa [found, eq_comm] using entered

/-- **A path that leads to something other than a directory** leads to a name in one. -/
theorem exists_of_follow_eq_ok {last : Location} (bare : tree.hasDirectory last = false) :
    ∀ {segments : List String} {location : Location}, segments ≠ [] →
      tree.follow location segments = .ok last →
      ∃ directory name, last = directory ++ [name] ∧ tree.hasDirectory directory = true
  | [], _, given, _ => absurd rfl given
  | segment :: rest, location, _, followed => by
    rw [follow_cons] at followed
    obtain ⟨next, entered, followed⟩ := exists_of_bind_eq_ok followed
    by_cases further : rest = []
    · subst further
      obtain rfl := Except.ok.inj followed
      exact ⟨location, segment, eq_append_of_enter entered bare, hasDirectory_of_enter entered⟩
    · exact exists_of_follow_eq_ok bare further followed

/-! ### Names -/

/-- The path ends in the name of an entry that there can be in the directory at a location. -/
structure Names (tree : FileTree) (path : String) (directory : Location) (name : String) : Prop where
  /-- Nothing is wrong with the path. -/
  sound : fault? path = none
  /-- There is the directory. -/
  there : tree.hasDirectory directory = true
  /-- The segments before the name lead to it. -/
  way : ∃ way, Path.segments path = way ++ [name] ∧ tree.follow (tree.start path) way = .ok directory
  /-- The name is not one of those that stand for a directory. -/
  proper : Path.isVoid name = false ∧ name ≠ ".."
  /-- The name is not too long. -/
  short : name.utf8ByteSize ≤ longestName

/-- A text that ends with an empty part ends with what its parts stand between. -/
theorem getLast?_intercalate_append_nil {α : Type} (separator : α) :
    ∀ {parts : List (List α)}, parts ≠ [] →
      ([separator].intercalate (parts ++ [[]])).getLast? = some separator
  | [], given => absurd rfl given
  | [part], _ => by
    rw [List.singleton_append, List.intercalate_cons_cons, List.intercalate_singleton, List.append_nil,
      List.getLast?_concat]
  | part :: next :: parts, _ => by
    have rest : ([separator].intercalate (next :: parts ++ [[]])).getLast? = some separator :=
      getLast?_intercalate_append_nil separator (by simp)
    rw [List.cons_append, List.intercalate_cons_of_ne_nil (by simp), List.getLast?_append, rest]
    rfl

/-- **A path that does not end in a slash ends in a segment.** -/
theorem exists_segments_eq_append {path : String} (sound : fault? path = none)
    (ending : path.toList.getLast? ≠ some '/') :
    ∃ way name, Path.segments path = way ++ [name] ∧ name.isEmpty = false := by
  have joined : ['/'].intercalate (path.toList.splitOn '/') = path.toList :=
    List.intercalate_splitOn '/'
  rcases List.eq_nil_or_concat (path.toList.splitOn '/') with none | ⟨parts, last, split⟩
  · exact absurd none (List.splitOn_ne_nil _ _)
  · refine ⟨parts.map String.ofList, String.ofList last, by simp [Path.segments, split], ?_⟩
    by_contra empty
    obtain rfl : last = [] := by simpa using empty
    rw [split, List.concat_eq_append] at joined
    by_cases alone : parts = []
    · subst alone
      have nothing : path = "" := by simpa using joined.symm
      simp [fault?, nothing] at sound
    · rw [← joined] at ending
      exact ending (getLast?_intercalate_append_nil '/' alone)

theorem Target.exists_of_location_eq_ok {target : Target} {special : Failure} {location : Location}
    (located : target.location special = .ok location) :
    ∃ name, target.name? = some name ∧ name ≠ "." ∧ name ≠ ".." ∧ name.utf8ByteSize ≤ longestName ∧
      location = target.directory ++ [name] := by
  rw [Target.location] at located
  split at located
  · cases located
  · next name last =>
    split at located
    · cases located
    · next proper =>
      split at located
      · cases located
      · next short =>
        rw [not_or] at proper
        exact ⟨name, last, proper.1, proper.2, Nat.le_of_not_gt short, (Except.ok.inj located).symm⟩

/-- The segments of a path that are not empty. -/
def segmentsOf (path : String) : List String :=
  (Path.segments path).filter fun segment => !segment.isEmpty

theorem of_target_eq_ok {path : String} {target : Target} (ok : tree.target path = .ok target) :
    fault? path = none ∧ tree.hasDirectory target.directory = true ∧
      tree.follow (tree.start path) (segmentsOf path).dropLast = .ok target.directory ∧
      target.name? = (segmentsOf path).getLast? ∧
      target.slash = (path.toList.getLast? == some '/') := by
  rw [FileTree.target] at ok
  cases sound : fault? path with
  | some failure => simp [sound] at ok
  | none =>
    simp only [sound] at ok
    obtain ⟨directory, followed, ok⟩ := exists_of_bind_eq_ok ok
    split at ok
    · next there =>
      obtain rfl := Except.ok.inj ok
      exact ⟨rfl, there, followed, rfl, rfl⟩
    · cases ok

/-- **The location of a target is a name in a directory**, and without a slash at its end the path
is one that ends in this name. -/
theorem names_of_target_eq_ok {path : String} {target : Target} {special : Failure}
    {location : Location} (ok : tree.target path = .ok target) (located : target.location special = .ok location) :
    ∃ name, location = target.directory ++ [name] ∧ tree.hasDirectory target.directory = true ∧
      (target.slash = false → tree.Names path target.directory name) := by
  obtain ⟨sound, there, followed, last, slash⟩ := of_target_eq_ok ok
  obtain ⟨name, named, notHere, notUp, short, rfl⟩ := Target.exists_of_location_eq_ok located
  refine ⟨name, rfl, there, fun open_ => ?_⟩
  have ending : path.toList.getLast? ≠ some '/' := by
    rw [open_] at slash
    simpa using slash.symm
  obtain ⟨way, name', split, proper⟩ := exists_segments_eq_append sound ending
  -- The name was looked for among the segments that are not empty, and it is the last of all.
  have segments : segmentsOf path = (way.filter fun segment => !segment.isEmpty) ++ [name'] := by
    rw [segmentsOf, split, List.filter_append, List.filter_cons_of_pos (by simpa using proper),
      List.filter_nil]
  rw [segments, List.getLast?_concat] at last
  obtain rfl : name = name' := Option.some.inj (named.symm.trans last)
  rw [segments, List.dropLast_concat] at followed
  exact
    { sound, there, short
      way := ⟨way, split, follow_of_follow_filter followed there⟩
      proper := ⟨by simp [Path.isVoid, proper, notHere], notUp⟩ }

namespace Names

variable {path : String} {directory : Location} {name : String}

/-- A name is found if there is something under it. -/
theorem locate_eq (named : tree.Names path directory name)
    (found : tree.shapeAt? (directory ++ [name]) ≠ none) :
    tree.locate path = .ok (directory ++ [name]) := by
  obtain ⟨way, split, followed⟩ := named.way
  obtain ⟨entry, there⟩ := Option.ne_none_iff_exists'.1 (mt shapeAt?_eq_none_iff.2 found)
  have entered : tree.enter directory name = .ok (directory ++ [name]) := by
    simp [enter, named.there, named.proper, Nat.not_lt_of_le named.short, there]
  rw [locate, named.sound]
  simp only
  rw [split, follow_append, followed, Except.bind, follow_cons, entered]
  rfl

/-- A path ends in the same name in a tree that has kept all directories. -/
theorem of_keeps (kept : ∀ location, tree.hasDirectory location = true →
      after.hasDirectory location = true) (start : after.workingDirectory = tree.workingDirectory)
    (named : tree.Names path directory name) : after.Names path directory name := by
  obtain ⟨way, split, followed⟩ := named.way
  refine { named with there := kept _ named.there, way := ⟨way, split, ?_⟩ }
  have same : after.start path = tree.start path := by rw [FileTree.start, FileTree.start, start]
  rw [same]
  exact follow_of_keeps kept followed named.there

/-- A path ends in one name. -/
theorem unique (named : tree.Names path directory name) {directory' : Location} {name' : String}
    (named' : tree.Names path directory' name') : directory = directory' ∧ name = name' := by
  obtain ⟨way, split, followed⟩ := named.way
  obtain ⟨way', split', followed'⟩ := named'.way
  obtain ⟨rfl, same⟩ := List.append_inj' (split.symm.trans split') rfl
  exact ⟨Except.ok.inj (followed.symm.trans followed'), (List.cons.inj same).1⟩

end Names

/-! ### What the operations do -/

/-- A tree after another is seen as that one, except for what is at one location. -/
structure Overwrites (tree after : FileTree) (location : Location) (new? : Option Shape) : Prop where
  /-- What is seen. -/
  shape : ∀ other, after.shapeAt? other = if other = location then new? else tree.shapeAt? other
  /-- No directory lists a name twice. -/
  distinct : after.Distinct
  /-- Paths start where they did. -/
  start : after.workingDirectory = tree.workingDirectory

namespace Overwrites

variable {location : Location} {new? : Option Shape}

theorem shape_self (altered : Overwrites tree after location new?) : after.shapeAt? location = new? := by
  rw [altered.shape, if_pos rfl]

theorem shape_of_ne (altered : Overwrites tree after location new?) {other : Location}
    (ne : other ≠ location) : after.shapeAt? other = tree.shapeAt? other := by
  rw [altered.shape, if_neg ne]

theorem fileAt?_self (altered : Overwrites tree after location new?) :
    after.fileAt? location = new?.bind Shape.content? := by
  rw [fileAt?_eq_bind_shapeAt?, altered.shape_self]

theorem fileAt?_of_ne (altered : Overwrites tree after location new?) {other : Location}
    (ne : other ≠ location) : after.fileAt? other = tree.fileAt? other := by
  rw [fileAt?_eq_bind_shapeAt?, altered.shape_of_ne ne, fileAt?_eq_bind_shapeAt?]

/-- All directories are kept where there was none. -/
theorem keeps (altered : Overwrites tree after location new?)
    (free : tree.shapeAt? location ≠ some .directory) (other : Location)
    (there : tree.hasDirectory other = true) : after.hasDirectory other = true := by
  rw [hasDirectory_iff] at there ⊢
  have ne : other ≠ location := fun same => free (same ▸ there)
  rw [altered.shape_of_ne ne, there]

/-- What is changed twice is as it is changed last. -/
theorem trans {last : FileTree} {newer? : Option Shape} (altered : Overwrites tree after location new?)
    (again : Overwrites after last location newer?) : Overwrites tree last location newer? where
  shape other := by
    rw [again.shape, altered.shape]
    split <;> rfl
  distinct := again.distinct
  start := again.start.trans altered.start

end Overwrites

theorem overwrites_put (distinct : tree.Distinct) {directory : Location} {name : String}
    (there : tree.hasDirectory directory = true)
    (free : tree.shapeAt? (directory ++ [name]) ≠ some .directory) (entry : Entry)
    (bare : ∀ below, below ≠ [] → entry.find? below = none) (inner : entry.Distinct) :
    Overwrites tree (tree.put (directory ++ [name]) entry) (directory ++ [name])
      (some entry.shape) where
  shape := shapeAt?_replace distinct there free (some entry) bare
  distinct := distinct.replace _ fun _ same => Option.some.inj same ▸ inner
  start := rfl

theorem overwrites_put_file (distinct : tree.Distinct) {directory : Location} {name : String}
    (there : tree.hasDirectory directory = true)
    (free : tree.shapeAt? (directory ++ [name]) ≠ some .directory) (content : ByteArray) :
    Overwrites tree (tree.put (directory ++ [name]) (.file content)) (directory ++ [name])
      (some (.file content)) := by
  refine overwrites_put distinct there free _ (fun below further => ?_) (Entry.distinct_file content)
  obtain ⟨first, rest, rfl⟩ := List.exists_cons_of_ne_nil further
  rfl

theorem overwrites_erase (distinct : tree.Distinct) {directory : Location} {name : String}
    (there : tree.hasDirectory directory = true)
    (free : tree.shapeAt? (directory ++ [name]) ≠ some .directory) :
    Overwrites tree (tree.erase (directory ++ [name])) (directory ++ [name]) none where
  shape := shapeAt?_replace distinct there free none fun _ _ => rfl
  distinct := distinct.replace _ fun _ same => nomatch same
  start := rfl

theorem hasDirectory_eq_false_iff {location : Location} :
    tree.hasDirectory location = false ↔ tree.shapeAt? location ≠ some .directory := by
  rw [← Bool.not_eq_true, hasDirectory_iff]

/-- **A file that is written** is at the name that its path ends in, where there was no directory.
-/
theorem of_writeFile_eq_ok (distinct : tree.Distinct) {path : String} {content : ByteArray}
    (ok : tree.writeFile path content = .ok after) :
    ∃ directory name, tree.Names path directory name ∧
      tree.shapeAt? (directory ++ [name]) ≠ some .directory ∧
      Overwrites tree after (directory ++ [name]) (some (.file content)) := by
  obtain ⟨target, targeted, ok⟩ := exists_of_bind_eq_ok ok
  split at ok
  · cases ok
  · next open_ =>
    obtain ⟨location, located, ok⟩ := exists_of_bind_eq_ok ok
    obtain ⟨name, rfl, there, named⟩ := names_of_target_eq_ok targeted located
    split at ok
    · cases ok
    · next free =>
      rw [Bool.not_eq_true, hasDirectory_eq_false_iff] at free
      obtain rfl := Except.ok.inj ok
      exact ⟨_, name, named (Bool.not_eq_true _ ▸ open_), free,
        overwrites_put_file distinct there free content⟩

/-- **A directory that is made** is where there was nothing. -/
theorem of_makeDirectory_eq_ok (distinct : tree.Distinct) {path : String}
    (ok : tree.makeDirectory path = .ok after) :
    ∃ location, tree.shapeAt? location = none ∧ Overwrites tree after location (some .directory) := by
  obtain ⟨target, targeted, ok⟩ := exists_of_bind_eq_ok ok
  obtain ⟨location, located, ok⟩ := exists_of_bind_eq_ok ok
  obtain ⟨name, rfl, there, -⟩ := names_of_target_eq_ok targeted located
  split at ok
  · cases ok
  · next nothing =>
    obtain rfl := Except.ok.inj ok
    have nothing := shapeAt?_eq_none_iff.2 nothing
    refine ⟨_, nothing, ?_⟩
    refine overwrites_put distinct there (by simp [nothing]) (.directory []) ?_ ?_
    · intro below further
      obtain ⟨first, rest, rfl⟩ := List.exists_cons_of_ne_nil further
      rfl
    · exact Entry.distinct_directory List.nodup_nil trivial

/-- **A file that is moved** is gone from where it was, and it is at the name that the path ends in,
where there was no directory. -/
theorem of_moveFile_eq_ok (distinct : tree.Distinct) {source path : String} {outer : Location}
    {first : String} {content : ByteArray} (origin : tree.Names source outer first)
    (file : tree.fileAt? (outer ++ [first]) = some content)
    (ok : tree.moveFile source path = .ok after) :
    ∃ directory name between, tree.Names path directory name ∧
      tree.shapeAt? (directory ++ [name]) ≠ some .directory ∧
      Overwrites tree between (outer ++ [first]) none ∧
      Overwrites between after (directory ++ [name]) (some (.file content)) := by
  obtain ⟨location, located, ok⟩ := exists_of_bind_eq_ok ok
  have seen := fileAt?_eq_some_iff.1 file
  rw [origin.locate_eq (by simp [seen])] at located
  obtain rfl := Except.ok.inj located
  obtain ⟨target, targeted, ok⟩ := exists_of_bind_eq_ok ok
  obtain ⟨location, located, ok⟩ := exists_of_bind_eq_ok ok
  obtain ⟨name, rfl, there, named⟩ := names_of_target_eq_ok targeted located
  split at ok
  · cases ok
  · next open_ =>
    split at ok
    · cases ok
    · next free =>
      rw [Bool.not_eq_true, hasDirectory_eq_false_iff] at free
      rw [entryAt?_eq_file_iff.2 file] at ok
      obtain rfl := Except.ok.inj ok
      -- The target was looked up before the file is gone from where it was, but what is gone is no
      -- directory, so the one that the file goes into is still there.
      have noDirectory : tree.shapeAt? (outer ++ [first]) ≠ some .directory := by simp [seen]
      have erased := overwrites_erase distinct origin.there noDirectory
      have free' : (tree.erase (outer ++ [first])).shapeAt? (target.directory ++ [name]) ≠
          some .directory := by
        rw [erased.shape]
        split
        · exact nofun
        · exact free
      have there' := erased.keeps noDirectory _ there
      exact ⟨_, name, _, named (Bool.not_eq_true _ ▸ open_), free, erased,
        overwrites_put_file erased.distinct there' free' content⟩

/-- **A file that is there can be removed.** -/
theorem removeFile_eq_ok {path : String} {directory : Location} {name : String} {content : ByteArray}
    (named : tree.Names path directory name)
    (file : tree.fileAt? (directory ++ [name]) = some content) :
    tree.removeFile path = .ok (tree.erase (directory ++ [name])) := by
  have seen := fileAt?_eq_some_iff.1 file
  have noDirectory : tree.hasDirectory (directory ++ [name]) = false :=
    hasDirectory_eq_false_iff.2 (by simp [seen])
  rw [removeFile, named.locate_eq (by simp [seen])]
  show (if _ then _ else _) = _
  rw [noDirectory]
  rfl

/-- **A file that is removed** was where the path leads, and it is gone from there. -/
theorem of_removeFile_eq_ok (distinct : tree.Distinct) {path : String}
    (ok : tree.removeFile path = .ok after) :
    ∃ location, tree.locate path = .ok location ∧ Overwrites tree after location none := by
  obtain ⟨location, located, ok⟩ := exists_of_bind_eq_ok ok
  split at ok
  · cases ok
  · next bare =>
    rw [Bool.not_eq_true] at bare
    obtain rfl := Except.ok.inj ok
    refine ⟨location, located, ?_⟩
    rw [locate] at located
    split at located
    · cases located
    · have given : Path.segments path ≠ [] :=
        mt List.map_eq_nil_iff.1 (List.splitOn_ne_nil _ _)
      obtain ⟨directory, name, rfl, there⟩ := exists_of_follow_eq_ok bare given located
      exact overwrites_erase distinct there (hasDirectory_eq_false_iff.1 bare)

/-! ### Directories that are made -/

/-- A tree has the files of one before it and its directories, and perhaps more directories. -/
structure Grows (tree after : FileTree) : Prop where
  /-- The files are the same. -/
  files : ∀ location, after.fileAt? location = tree.fileAt? location
  /-- The directories are still there. -/
  directories : ∀ location, tree.hasDirectory location = true → after.hasDirectory location = true
  /-- No directory lists a name twice. -/
  distinct : after.Distinct
  /-- Paths start where they did. -/
  start : after.workingDirectory = tree.workingDirectory

namespace Grows

variable {last : FileTree}

theorem refl (distinct : tree.Distinct) : Grows tree tree :=
  ⟨fun _ => rfl, fun _ => id, distinct, rfl⟩

theorem trans (first : Grows tree after) (second : Grows after last) : Grows tree last where
  files location := (second.files location).trans (first.files location)
  directories location there := second.directories location (first.directories location there)
  distinct := second.distinct
  start := second.start.trans first.start

theorem of_makeDirectory_eq_ok (distinct : tree.Distinct) {path : String}
    (ok : tree.makeDirectory path = .ok after) : Grows tree after := by
  obtain ⟨location, nothing, altered⟩ := FileTree.of_makeDirectory_eq_ok distinct ok
  refine ⟨fun other => ?_, altered.keeps (by simp [nothing]), altered.distinct, altered.start⟩
  by_cases here : other = location
  · subst here
    rw [altered.fileAt?_self, fileAt?_eq_bind_shapeAt?, nothing]
    rfl
  · exact altered.fileAt?_of_ne here

/-- **However many directories are made**, on whatever medium, and whether or not the last one could be,
no file changes. -/
theorem makeDirectories (distinct : tree.Distinct) (medium : Medium) (ancestors : List String) :
    Grows tree (medium.makeDirectories tree ancestors).1 := by
  -- A path is made again after its outer ones, so a step goes through two trees.
  induction ancestors with
  | nil => exact refl distinct
  | cons path outer ih =>
    rw [Medium.makeDirectories]
    split
    · next made ok => exact of_makeDirectory_eq_ok distinct (Medium.perform_eq_ok ok)
    · split
      · next made failure eq =>
        rw [eq] at ih
        exact ih
      · next made eq =>
        rw [eq] at ih
        split
        · next last ok =>
          exact ih.trans (of_makeDirectory_eq_ok ih.distinct (Medium.perform_eq_ok ok))
        · exact ih
    · exact refl distinct

end Grows

end Gamebook.FileTree
