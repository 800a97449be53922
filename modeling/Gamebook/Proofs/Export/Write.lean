import Gamebook.Export.Write
import Gamebook.Proofs.FileTree.Operations

/-!
# Writing a document changes one file

The directories on the way to a path are made before anything is written, and they hold no files.
The text is written under another name, and what happens to it then is to be moved over the path or
to be removed.  So after a failure there is no file with other bytes than before
(`untouched_of_writeDocumentOn_error`), and after a success there is one
(`wrote_of_writeDocumentOn_ok`): the file that the path leads to.

The medium is arbitrary.  It may refuse any operation but removing, and for a failure nothing else is
asked of it; a success needs no promise at all, since an operation that succeeded did what the tree says.

## The temporary file

Whatever was under the temporary name is gone afterwards in either case.  It is the only thing that
can be lost, and nothing is if the name was not taken, which is the case with a stamp that is fresh.
-/

namespace Gamebook.Export

open Gamebook.FileTree Gamebook.Story

variable {tree made staged after : FileTree} {medium : Medium} {stamp path temporary text : String}

/-- The file at a location is the one that it was, or there is none because its name was needed. -/
def Untouched (tree after : FileTree) (needed : Except Failure Location) (location : Location) : Prop :=
  after.fileAt? location = tree.fileAt? location ∨
    after.fileAt? location = none ∧ needed = .ok location

/-- The text is the file at the path, and all other files are untouched. -/
structure Wrote (tree after : FileTree) (needed : Except Failure Location) (path text : String)
    (location : Location) : Prop where
  /-- The path leads to the location. -/
  located : after.locate path = .ok location
  /-- The text is there. -/
  content : after.fileAt? location = some text.toUTF8
  /-- All other files are untouched. -/
  others : ∀ other, other ≠ location → Untouched tree after needed other
  /-- No directory lists a name twice. -/
  distinct : after.Distinct

theorem Untouched.file {needed : Except Failure Location} {location : Location} {content : ByteArray}
    (untouched : Untouched tree after needed location)
    (found : after.fileAt? location = some content) : tree.fileAt? location = some content := by
  rcases untouched with same | ⟨gone, -⟩
  · rw [← same, found]
  · rw [gone] at found
    cases found

/-! ### The temporary file -/

/-- A tree in which there is a temporary file with that content. -/
structure Staged (tree staged : FileTree) (temporary : String) (content : ByteArray)
    (directory : Location) (name : String) : Prop where
  /-- The temporary path ends in the name. -/
  named : tree.Names temporary directory name
  /-- There was no directory. -/
  free : tree.shapeAt? (directory ++ [name]) ≠ some .directory
  /-- The file is there, and nothing else changed. -/
  altered : Overwrites tree staged (directory ++ [name]) (some (.file content))

namespace Staged

variable {directory : Location} {name : String} {content : ByteArray}

theorem exists_of_writeFile_eq_ok (distinct : tree.Distinct)
    (ok : tree.writeFile temporary content = .ok staged) :
    ∃ directory name, Staged tree staged temporary content directory name := by
  obtain ⟨directory, name, named, free, altered⟩ := of_writeFile_eq_ok distinct ok
  exact ⟨directory, name, named, free, altered⟩

/-- The temporary path leads to the file. -/
theorem named_staged (step : Staged tree staged temporary content directory name) :
    staged.Names temporary directory name :=
  step.named.of_keeps (step.altered.keeps step.free) step.altered.start

theorem file_staged (step : Staged tree staged temporary content directory name) :
    staged.fileAt? (directory ++ [name]) = some content := by
  rw [step.altered.fileAt?_self]
  rfl

/-- A temporary file may be written again. -/
theorem writeFile {other : ByteArray} (step : Staged tree staged temporary content directory name)
    (ok : staged.writeFile temporary other = .ok after) :
    Staged tree after temporary other directory name := by
  obtain ⟨directory', name', named, -, altered⟩ := of_writeFile_eq_ok step.altered.distinct ok
  obtain ⟨rfl, rfl⟩ := step.named_staged.unique named
  exact ⟨step.named, step.free, step.altered.trans altered⟩

/-- Once the temporary file is gone, files are untouched where they are those of the tree with it. -/
theorem untouched (step : Staged tree staged temporary content directory name)
    (gone : after.fileAt? (directory ++ [name]) = none) {location : Location}
    (same : location ≠ directory ++ [name] → after.fileAt? location = staged.fileAt? location) :
    Untouched tree after (tree.locate temporary) location := by
  by_cases here : location = directory ++ [name]
  · subst here
    -- Only if something was there before does its absence say anything.
    by_cases before : tree.shapeAt? (directory ++ [name]) = none
    · left
      rw [gone, fileAt?_eq_bind_shapeAt?, before]
      rfl
    · exact .inr ⟨gone, step.named.locate_eq before⟩
  · exact .inl ((same here).trans (step.altered.fileAt?_of_ne here))

/-- **A temporary file that is discarded** leaves the files untouched. -/
theorem untouched_discard (step : Staged tree staged temporary content directory name)
    (removes : medium.Removes) :
    (discard medium staged temporary).Distinct ∧
      ∀ location, Untouched tree (discard medium staged temporary) (tree.locate temporary)
        location := by
  have seen := fileAt?_eq_some_iff.1 step.file_staged
  have noDirectory : staged.shapeAt? (directory ++ [name]) ≠ some .directory := by simp [seen]
  have erased := overwrites_erase step.altered.distinct step.named_staged.there noDirectory
  rw [discard, removes.perform_eq, removeFile_eq_ok step.named_staged step.file_staged]
  exact ⟨erased.distinct, fun _ => step.untouched erased.fileAt?_self erased.fileAt?_of_ne⟩

/-- **A temporary file that is moved** is the file at the path. -/
theorem wrote_of_moveFile_eq_ok (step : Staged tree staged temporary text.toUTF8 directory name)
    (ok : staged.moveFile temporary path = .ok after) :
    ∃ location, Wrote tree after (tree.locate temporary) path text location := by
  obtain ⟨outer, last, between, named, free, erased, moved⟩ :=
    of_moveFile_eq_ok step.altered.distinct step.named_staged step.file_staged ok
  have seen := fileAt?_eq_some_iff.1 step.file_staged
  have free' : between.shapeAt? (outer ++ [last]) ≠ some .directory := by
    rw [erased.shape]
    split
    · exact nofun
    · exact free
  have named' :=
    (named.of_keeps (erased.keeps (by simp [seen])) erased.start).of_keeps (moved.keeps free')
      moved.start
  refine ⟨outer ++ [last], named'.locate_eq (by simp [moved.shape_self]), moved.fileAt?_self,
    fun other ne => ?_, moved.distinct⟩
  by_cases same : outer ++ [last] = directory ++ [name]
  · -- The path is the temporary one under another spelling.
    left
    rw [moved.fileAt?_of_ne ne, erased.fileAt?_of_ne (same ▸ ne),
      step.altered.fileAt?_of_ne (same ▸ ne)]
  · refine step.untouched ?_ fun elsewhere => ?_
    · rw [moved.fileAt?_of_ne (Ne.symm same), erased.fileAt?_self]
      rfl
    · rw [moved.fileAt?_of_ne ne, erased.fileAt?_of_ne elsewhere]

end Staged

/-- **Wherever staging stops**, the tree is the one before, or there is a temporary file in it; and if it
does not stop before its end, this file has the bytes of the text. -/
theorem of_stage_eq (distinct : tree.Distinct) {result : Except Failure Unit}
    (eq : stage medium tree temporary text = (staged, result)) :
    staged = tree ∧ result ≠ .ok () ∨
      ∃ content directory name, Staged tree staged temporary content directory name ∧
        (result = .ok () → content = text.toUTF8) := by
  rw [stage] at eq
  split at eq
  · obtain ⟨rfl, rfl⟩ := Prod.mk.inj eq
    exact .inl ⟨rfl, nofun⟩
  · next created ok =>
    obtain ⟨directory, name, step⟩ :=
      Staged.exists_of_writeFile_eq_ok distinct (Medium.perform_eq_ok ok)
    right
    split at eq
    · obtain ⟨rfl, rfl⟩ := Prod.mk.inj eq
      exact ⟨_, directory, name, step, nofun⟩
    · next filled ok =>
      have step := step.writeFile (Medium.perform_eq_ok ok)
      split at eq
      · obtain ⟨rfl, rfl⟩ := Prod.mk.inj eq
        exact ⟨_, directory, name, step, nofun⟩
      · next synced ok =>
        obtain rfl := Except.ok.inj (Medium.perform_eq_ok ok)
        obtain ⟨rfl, rfl⟩ := Prod.mk.inj eq
        exact ⟨_, directory, name, step, fun _ => rfl⟩

/-- A file that was not created may be discarded all the same. -/
theorem untouched_discard (distinct : tree.Distinct) (removes : medium.Removes) :
    (discard medium tree temporary).Distinct ∧
      ∀ location, Untouched tree (discard medium tree temporary) (tree.locate temporary) location := by
  rw [discard, removes.perform_eq]
  split
  · next cleared ok =>
    obtain ⟨gone, located, erased⟩ := of_removeFile_eq_ok distinct ok
    refine ⟨erased.distinct, fun location => ?_⟩
    by_cases here : location = gone
    · subst here
      exact .inr ⟨erased.fileAt?_self, located⟩
    · exact .inl (erased.fileAt?_of_ne here)
  · exact ⟨distinct, fun _ => .inl rfl⟩

/-! ### The file at the path -/

theorem untouched_of_replaceFile_error (distinct : tree.Distinct) (removes : medium.Removes)
    {error : WriteError} (failed : replaceFile medium tree stamp path text = (after, .error error)) :
    after.Distinct ∧
      ∀ location, Untouched tree after (tree.locate (temporaryPath path stamp)) location := by
  rw [replaceFile] at failed
  split at failed
  · next staged failure eq =>
    obtain ⟨rfl, -⟩ := Prod.mk.inj failed
    rcases of_stage_eq distinct eq with ⟨rfl, -⟩ | ⟨content, directory, name, step, -⟩
    · exact untouched_discard distinct removes
    · exact step.untouched_discard removes
  · next staged eq =>
    split at failed
    · obtain ⟨rfl, -⟩ := Prod.mk.inj failed
      rcases of_stage_eq distinct eq with ⟨-, wrong⟩ | ⟨content, directory, name, step, -⟩
      · exact absurd rfl wrong
      · exact step.untouched_discard removes
    · cases (Prod.mk.inj failed).2

theorem wrote_of_replaceFile_ok (distinct : tree.Distinct) {done : Unit}
    (replaced : replaceFile medium tree stamp path text = (after, .ok done)) :
    ∃ location, Wrote tree after (tree.locate (temporaryPath path stamp)) path text location := by
  rw [replaceFile] at replaced
  split at replaced
  · cases (Prod.mk.inj replaced).2
  · next staged eq =>
    split at replaced
    · cases (Prod.mk.inj replaced).2
    · next moved ok =>
      obtain ⟨rfl, -⟩ := Prod.mk.inj replaced
      rcases of_stage_eq distinct eq with ⟨-, wrong⟩ | ⟨content, directory, name, step, whole⟩
      · exact absurd rfl wrong
      · obtain rfl := whole rfl
        exact step.wrote_of_moveFile_eq_ok (Medium.perform_eq_ok ok)

theorem grows_makeParents (distinct : tree.Distinct) (medium : Medium) (path : String) :
    Grows tree (makeParents medium tree path).1 := by
  unfold makeParents
  split
  · exact .refl distinct
  · split
    · exact .refl distinct
    · have grown := Grows.makeDirectories distinct medium (Path.ancestors path).tail
      cases made : medium.makeDirectories tree (Path.ancestors path).tail with
      | mk changed result =>
        rw [made] at grown
        exact grown

/-! ### The whole document -/

/-- The location that the temporary file takes, if something is there. -/
def needed (medium : Medium) (tree : FileTree) (stamp path : String) : Except Failure Location :=
  (makeParents medium tree path).1.locate (temporaryPath path stamp)

variable {graph : Graph}

/-- The document is the text that takes the place of what is at the path. -/
theorem writeDocumentOn_eq (medium : Medium) (tree : FileTree) (stamp path : String) (graph : Graph) :
    writeDocumentOn medium tree stamp path graph =
      match (makeParents medium tree path).2 with
      | .error error => ((makeParents medium tree path).1, .error error)
      | .ok () =>
        let replaced :=
          replaceFile medium (makeParents medium tree path).1 stamp path (renderDocument graph)
        (replaced.1, replaced.2.map fun _ => .ofText path (renderDocument graph)) := by
  unfold writeDocumentOn
  rcases makeParents medium tree path with ⟨made, _ | _⟩ <;> rfl

theorem Untouched.of_grows {needed : Except Failure Location} {location : Location}
    (grown : Grows tree made) (untouched : Untouched made after needed location) :
    Untouched tree after needed location := by
  rw [Untouched, ← grown.files location]
  exact untouched

/-- **A document that could not be written** leaves the files untouched. -/
theorem untouched_of_writeDocumentOn_error (distinct : tree.Distinct) (removes : medium.Removes)
    {error : WriteError} (failed : writeDocumentOn medium tree stamp path graph = (after, .error error)) :
    after.Distinct ∧ ∀ location, Untouched tree after (needed medium tree stamp path) location := by
  have grown := grows_makeParents distinct medium path
  rw [writeDocumentOn_eq] at failed
  split at failed
  · obtain ⟨rfl, -⟩ := Prod.mk.inj failed
    exact ⟨grown.distinct, fun location => .inl (grown.files location)⟩
  · cases replaced :
        replaceFile medium (makeParents medium tree path).1 stamp path (renderDocument graph) with
    | mk changed result =>
      rw [replaced] at failed
      obtain ⟨rfl, failed⟩ := Prod.mk.inj failed
      cases result with
      | ok done => cases failed
      | error error =>
        obtain ⟨distinct', untouched⟩ :=
          untouched_of_replaceFile_error grown.distinct removes replaced
        unfold needed
        exact ⟨distinct', fun location => (untouched location).of_grows grown⟩

/-- **A document that was written** is the file at its path, and leaves the other files untouched. -/
theorem wrote_of_writeDocumentOn_ok (distinct : tree.Distinct) {report : Written}
    (wrote : writeDocumentOn medium tree stamp path graph = (after, .ok report)) :
    report = .ofText path (renderDocument graph) ∧
      ∃ location, Wrote tree after (needed medium tree stamp path) path (renderDocument graph)
        location := by
  have grown := grows_makeParents distinct medium path
  rw [writeDocumentOn_eq] at wrote
  split at wrote
  · cases (Prod.mk.inj wrote).2
  · cases replaced :
        replaceFile medium (makeParents medium tree path).1 stamp path (renderDocument graph) with
    | mk changed result =>
      rw [replaced] at wrote
      obtain ⟨rfl, ok⟩ := Prod.mk.inj wrote
      cases result with
      | error error => cases ok
      | ok done =>
        obtain ⟨location, wrote⟩ := wrote_of_replaceFile_ok grown.distinct replaced
        unfold needed
        exact ⟨(Except.ok.inj ok).symm, location, wrote.located, wrote.content,
          fun other ne => (wrote.others other ne).of_grows grown, wrote.distinct⟩

/-! ### Fresh names -/

/-- Nothing is where the temporary file will be. -/
def FreshOn (medium : Medium) (tree : FileTree) (stamp path : String) : Prop :=
  (makeParents medium tree path).1.hasEntry (temporaryPath path stamp) = false

instance (medium : Medium) (tree : FileTree) (stamp path : String) :
    Decidable (FreshOn medium tree stamp path) :=
  inferInstanceAs (Decidable (_ = _))

/-- **Nothing is lost** to a fresh name. -/
theorem Untouched.eq_of_fresh (distinct : tree.Distinct) (fresh : FreshOn medium tree stamp path)
    {location : Location}
    (untouched : Untouched tree after (needed medium tree stamp path) location) :
    after.fileAt? location = tree.fileAt? location := by
  rcases untouched with same | ⟨gone, taken⟩
  · exact same
  · have nothing : (makeParents medium tree path).1.entryAt? location = none := by
      rw [needed] at taken
      rw [FreshOn, hasEntry, FileTree.get, taken] at fresh
      cases found : (makeParents medium tree path).1.entryAt? location with
      | none => rfl
      | some entry =>
        simp only [bind, Except.bind, found] at fresh
        cases fresh
    rw [gone, ← (grows_makeParents distinct medium path).files location, fileAt?, nothing]
    rfl

end Gamebook.Export
