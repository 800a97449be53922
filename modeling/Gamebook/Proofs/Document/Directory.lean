import Gamebook.Document.Directory
import Gamebook.Proofs.FileTree.Relisting
import Gamebook.Proofs.Story.StableOrder
import Mathlib.Data.List.Sort
import Mathlib.Data.Set.List
import Mathlib.Data.String.Basic

/-!
# The documents in a directory, exactly

A story is read from a directory, whose entries come in whatever order, as do those of every directory
below it.  This file says which documents are read.  `Enumerates` is said of a list that has what the
files of the story hold and nothing else, by increasing ids.  Such a list is what is read, if anything
is (`sourcesIn_eq_ok_iff`).  It speaks of what is seen in the tree and of no order of entries, and so
what is read is the same however directories list them (`sourcesIn_exact_however_listed`).

## Why there is one such list

A source id can be taken apart into the names that it was made from, as no name is empty or has a slash
in it (`pathParts_sourceIdOf`).  So no two files have one id, the ids of the documents increase strictly
once they are in order, and only one strictly increasing list has the members that it has
(`Enumerates.unique`).

## When there is one

Reading goes from file to file and stops at the first that is no text.  Which file that is depends on the
order of the entries, but not whether there is one (`exists_sourcesIn_iff`).
-/

namespace Gamebook

namespace FileTree

/-! ### Directories and files -/

/-- The entries of a directory are those of the location that the path leads to. -/
theorem entries?_eq_some_iff {tree : FileTree} {path : String} {entries : List (String × Entry)} :
    tree.entries? path = some entries ↔
      ∃ top, tree.locate path = .ok top ∧ tree.entryAt? top = some (.directory entries) := by
  rw [entries?, FileTree.get]
  cases located : tree.locate path with
  | error failure => simp [bind, Except.bind]
  | ok top =>
    simp only [bind, Except.bind, Except.ok.injEq, exists_eq_left']
    rcases tree.entryAt? top with _ | (_ | _) <;> simp

/-- A file name with an extension is what stands in front of the dot, the dot and the extension. -/
theorem Path.hasExtension_iff {extension name : String} :
    Path.hasExtension extension name = true ↔
      ∃ stem, stem ≠ "" ∧ name = stem ++ ("." ++ extension) := by
  have ending : '.' :: extension.toList = ("." ++ extension).toList := by simp
  rw [Path.hasExtension, Bool.and_eq_true, List.isSuffixOf_iff_suffix, decide_eq_true_eq, ending]
  constructor
  · rintro ⟨⟨front, whole⟩, longer⟩
    refine ⟨String.ofList front, fun none => ?_, String.toList_injective (by simpa using whole.symm)⟩
    obtain rfl : front = [] := by simpa using none
    rw [List.nil_append] at whole
    rw [whole, String.length_toList] at longer
    exact absurd longer (Nat.lt_irrefl _)
  · rintro ⟨stem, given, rfl⟩
    have front : 0 < stem.length := Nat.pos_of_ne_zero (by simpa using given)
    refine ⟨⟨stem.toList, String.toList_append.symm⟩, ?_⟩
    rw [String.length_toList, String.length_append stem]
    exact Nat.lt_add_of_pos_left front

/-- The bytes of a file are a text if they are its UTF-8. -/
theorem textOf_eq_ok_iff {content : ByteArray} {raw : String} :
    textOf content = .ok raw ↔ raw.toUTF8 = content := by
  rw [textOf, String.fromUTF8?]
  by_cases valid : content.IsValidUTF8
  · rw [dif_pos valid]
    constructor
    · intro read
      rw [← Except.ok.inj read]
      rfl
    · rintro rfl
      rfl
  · rw [dif_neg valid]
    refine ⟨fun read => (by cases read), fun same => ?_⟩
    exact absurd (same ▸ raw.isValidUTF8) valid

end FileTree

namespace Document

open FileTree

/-! ### Source ids -/

/-- **The parts of a source id** are the names on the way to the file. -/
theorem pathParts_sourceIdOf {way : Location} (further : way ≠ [])
    (names : ∀ name ∈ way, Path.IsName name) :
    pathParts (sourceIdOf way).toList = way.map String.toList := by
  have whole : ∀ part ∈ way.map String.toList, '/' ∉ part := by
    rintro _ member
    obtain ⟨name, given, rfl⟩ := List.mem_map.1 member
    exact (names name given).whole
  have slash : "/".toList = ['/'] := rfl
  rw [pathParts, sourceIdOf, String.toList_intercalate, slash,
    List.splitOn_intercalate _ whole (by simpa using further), List.filter_eq_self]
  rintro _ member
  obtain ⟨name, given, rfl⟩ := List.mem_map.1 member
  simpa using (names name given).nonempty

/-- **No two files have one source id.** -/
theorem sourceIdOf_inj {way way' : Location} (further : way ≠ []) (further' : way' ≠ [])
    (names : ∀ name ∈ way, Path.IsName name) (names' : ∀ name ∈ way', Path.IsName name)
    (same : sourceIdOf way = sourceIdOf way') : way = way' := by
  have parts := pathParts_sourceIdOf further names
  rw [same, pathParts_sourceIdOf further' names'] at parts
  exact (List.map_injective_iff.2 (fun _ _ => String.toList_injective) parts).symm

theorem stem_append {front : List Char} (given : front ≠ []) :
    stem (front ++ ['.', 'm', 'd']) = front := by
  simp [stem, given]

/-- **The group of a document** is the directory that its file is in, and at the top its file without
the extension. -/
theorem groupName_sourceIdOf {directories : Location} {front : String} (given : front ≠ "")
    (names : ∀ name ∈ directories ++ [front ++ ".md"], Path.IsName name) :
    groupName (sourceIdOf (directories ++ [front ++ ".md"])) = directories.getLast?.getD front := by
  rw [groupName, groupNameOfPath, pathParts_sourceIdOf (by simp) names]
  rcases List.eq_nil_or_concat directories with rfl | ⟨outer, directory, rfl⟩
  · simp [stem_append (show front.toList ≠ [] by simpa using given)]
  · simp

/-! ### Reading a file -/

theorem sourceOfFile_eq_ok_iff {root : String} {file : Location × ByteArray} {source : Source} :
    sourceOfFile root file = .ok source ↔
      ∃ raw, raw.toUTF8 = file.2 ∧ source = .ofId (sourceIdOf file.1) raw := by
  rw [sourceOfFile]
  cases read : textOf file.2 with
  | error failure =>
    refine ⟨fun ok => (by cases ok), fun ⟨raw, same, _⟩ => ?_⟩
    rw [textOf_eq_ok_iff.2 same] at read
    cases read
  | ok raw =>
    constructor
    · exact fun ok => ⟨raw, textOf_eq_ok_iff.1 read, (Except.ok.inj ok).symm⟩
    · rintro ⟨raw', same, rfl⟩
      rw [textOf_eq_ok_iff.2 same] at read
      rw [Except.ok.inj read]

/-- All items are treated if each of them is. -/
theorem mapM_eq_ok_iff {ε α β : Type} {f : α → Except ε β} :
    ∀ {items : List α} {results : List β},
      items.mapM f = .ok results ↔ items.map f = results.map .ok
  | [], results => by
    rw [List.mapM_nil, List.map_nil, eq_comm (a := []), List.map_eq_nil_iff]
    exact ⟨fun ok => (Except.ok.inj ok).symm, fun none => congrArg Except.ok none.symm⟩
  | item :: items, results => by
    rw [List.mapM_cons, List.map_cons]
    constructor
    · intro ok
      obtain ⟨result, treated, ok⟩ := exists_of_bind_eq_ok ok
      obtain ⟨more, treated', ok⟩ := exists_of_bind_eq_ok ok
      rw [← Except.ok.inj ok, List.map_cons, treated, mapM_eq_ok_iff.1 treated']
    · intro same
      obtain ⟨result, more, rfl, treated, treated'⟩ := List.map_eq_cons_iff.1 same.symm
      rw [← treated, mapM_eq_ok_iff.2 treated'.symm]
      rfl

/-! ### The files of a story -/

variable {tree other : FileTree} {root : String} {top : Location} {entries : List (String × Entry)}
  {sources read : List Source}

/-- A file of the story in a directory: one at any depth below it whose name has the extension of
stories, and something in front of that. -/
structure StoryFile (tree : FileTree) (top : Location) where
  /-- The directories on the way to it. -/
  directories : Location
  /-- What stands in front of the extension of its name. -/
  stem : String
  /-- Its bytes. -/
  content : ByteArray
  /-- Something stands there. -/
  named : stem ≠ ""
  /-- There is the file. -/
  there : tree.fileAt? (top ++ (directories ++ [stem ++ ".md"])) = some content

namespace StoryFile

/-- The way to the file from the directory of the story. -/
def way (file : StoryFile tree top) : Location := file.directories ++ [file.stem ++ ".md"]

/-- The names on the way to the file, with slashes between them. -/
def sourceId (file : StoryFile tree top) : String := "/".intercalate file.way

/-- The name of the directory that the file is in, and at the top its own without the extension. -/
def group (file : StoryFile tree top) : String := file.directories.getLast?.getD file.stem

/-- A document is what the file holds. -/
structure Holds (file : StoryFile tree top) (source : Source) : Prop where
  /-- Its id is the way to the file. -/
  sourceId : source.sourceId = file.sourceId
  /-- Its group is named after the directory, or the file. -/
  group : source.group = file.group
  /-- Its text is that of the file. -/
  raw : source.raw.toUTF8 = file.content

theorem way_ne_nil (file : StoryFile tree top) : file.way ≠ [] := by simp [way]

theorem isName_of_mem_way (wellNamed : tree.WellNamed) (file : StoryFile tree top) :
    ∀ name ∈ file.way, Path.IsName name := by
  have found : tree.entryAt? (top ++ file.way) ≠ none := by
    rw [way, entryAt?_eq_file_iff.2 file.there]
    exact Option.some_ne_none _
  exact fun name member => wellNamed.isName found name (List.mem_append_right _ member)

theorem eq_of_way_eq {file file' : StoryFile tree top} (same : file.way = file'.way) :
    file = file' := by
  obtain ⟨directories, stem, content, _, there⟩ := file
  obtain ⟨directories', stem', content', _, there'⟩ := file'
  obtain ⟨rfl, ending⟩ := List.append_inj' same rfl
  obtain rfl : stem = stem' := String.append_left_inj ".md" |>.1 (List.singleton_inj.1 ending)
  obtain rfl := Option.some.inj (there.symm.trans there')
  rfl

theorem sourceId_injective (wellNamed : tree.WellNamed) :
    Function.Injective (sourceId : StoryFile tree top → String) := fun file file' same =>
  eq_of_way_eq (sourceIdOf_inj file.way_ne_nil file'.way_ne_nil (file.isName_of_mem_way wellNamed)
    (file'.isName_of_mem_way wellNamed) same)

/-- A file holds one document. -/
theorem Holds.unique {file : StoryFile tree top} {source source' : Source} (holds : file.Holds source)
    (holds' : file.Holds source') : source = source' := by
  obtain ⟨sourceId, group, raw⟩ := source
  obtain ⟨sourceId', group', raw'⟩ := source'
  obtain rfl : sourceId = sourceId' := holds.sourceId.trans holds'.sourceId.symm
  obtain rfl : group = group' := holds.group.trans holds'.group.symm
  obtain rfl : raw = raw' := String.toByteArray_inj.1 (holds.raw.trans holds'.raw.symm)
  rfl

/-- **A file is read as the document that it holds.** -/
theorem sourceOfFile_eq_ok_iff_holds (wellNamed : tree.WellNamed) (file : StoryFile tree top)
    {source : Source} :
    sourceOfFile root (file.way, file.content) = .ok source ↔ file.Holds source := by
  have named : groupName (sourceIdOf file.way) = file.group :=
    groupName_sourceIdOf file.named (file.isName_of_mem_way wellNamed)
  rw [sourceOfFile_eq_ok_iff]
  constructor
  · rintro ⟨raw, same, rfl⟩
    exact ⟨rfl, named, same⟩
  · intro holds
    refine ⟨source.raw, holds.raw, ?_⟩
    obtain ⟨sourceId, group, raw⟩ := source
    obtain rfl := holds.sourceId
    obtain rfl := holds.group
    rw [← named]
    rfl

end StoryFile

/-- **The files that are listed** are the files of the story. -/
theorem mem_storyFiles_iff (distinct : tree.Distinct)
    (found : tree.entryAt? top = some (.directory entries)) {way : Location} {content : ByteArray} :
    (way, content) ∈ storyFiles entries ↔
      ∃ file : StoryFile tree top, file.way = way ∧ file.content = content := by
  have here : (Entry.directory entries).find? way = tree.entryAt? (top ++ way) := by
    rw [entryAt?, Entry.find?_append, ← entryAt?, found]
    rfl
  have listed : (way, content) ∈ Entry.filesIn [] entries ↔
      tree.fileAt? (top ++ way) = some content := by
    rw [← Entry.files, Entry.mem_files_iff (distinct.of_entryAt? found), ← entryAt?_eq_file_iff, ← here]
    simp
  rw [storyFiles, List.mem_filter, listed]
  constructor
  · rintro ⟨there, last⟩
    obtain ⟨name, ending, extended⟩ := (Option.any_eq_true _ _).1 last
    obtain ⟨stem, named, rfl⟩ := Path.hasExtension_iff.1 extended
    obtain ⟨directories, rfl⟩ := List.getLast?_eq_some_iff.1 ending
    exact ⟨⟨directories, stem, content, named, there⟩, rfl, rfl⟩
  · rintro ⟨file, rfl, rfl⟩
    refine ⟨file.there, ?_⟩
    rw [StoryFile.way, List.getLast?_concat]
    exact Path.hasExtension_iff.2 ⟨file.stem, file.named, rfl⟩

/-- No file is listed twice. -/
theorem pairwise_storyFiles (distinct : tree.Distinct)
    (found : tree.entryAt? top = some (.directory entries)) :
    (storyFiles entries).Pairwise fun file file' => file.1 ≠ file'.1 := by
  have nodup := Entry.nodup_files (distinct.of_entryAt? found) []
  exact (List.pairwise_map.1 nodup).sublist List.filter_sublist

/-! ### The documents that are read -/

/-- The documents are those that the files of the story hold, in the order of their ids. -/
structure Enumerates (tree : FileTree) (top : Location) (sources : List Source) : Prop where
  /-- Each id is greater than the one before it. -/
  increasing : (sources.map Source.sourceId).Pairwise (· < ·)
  /-- No file is left out. -/
  complete : ∀ file : StoryFile tree top, ∃ source ∈ sources, file.Holds source
  /-- There is no document but of a file. -/
  sound : ∀ source ∈ sources, ∃ file : StoryFile tree top, file.Holds source

theorem Enumerates.mem_iff (enumerates : Enumerates tree top sources) {source : Source} :
    source ∈ sources ↔ ∃ file : StoryFile tree top, file.Holds source := by
  refine ⟨enumerates.sound source, fun ⟨file, holds⟩ => ?_⟩
  obtain ⟨source', member, holds'⟩ := enumerates.complete file
  exact holds.unique holds' ▸ member

/-- Files that hold documents are texts. -/
theorem Enumerates.isValidUTF8 (enumerates : Enumerates tree top sources)
    (file : StoryFile tree top) : file.content.IsValidUTF8 := by
  obtain ⟨source, -, holds⟩ := enumerates.complete file
  exact holds.raw ▸ source.raw.isValidUTF8

/-- **There is one list of the documents.** -/
theorem Enumerates.unique {sources' : List Source} (enumerates : Enumerates tree top sources)
    (enumerates' : Enumerates tree top sources') : sources = sources' := by
  have asymmetric : Std.Antisymm fun a b : Source => a.sourceId < b.sourceId :=
    ⟨fun a b less less' => absurd (String.lt_trans less less') (String.lt_irrefl _)⟩
  have irreflexive : Std.Irrefl fun a b : Source => a.sourceId < b.sourceId :=
    ⟨fun a => String.lt_irrefl _⟩
  refine (List.pairwise_map.1 enumerates.increasing).eq_of_mem_iff
    (List.pairwise_map.1 enumerates'.increasing) fun source => ?_
  rw [enumerates.mem_iff, enumerates'.mem_iff]

/-- The documents are read one by one and put in order. -/
theorem sourcesIn_eq_ok_iff_exists :
    sourcesIn tree root = .ok sources ↔
      ∃ top entries read, tree.locate root = .ok top ∧
        tree.entryAt? top = some (.directory entries) ∧
        (storyFiles entries).map (sourceOfFile root) = read.map .ok ∧
        sortedBy Source.sourceId read = sources := by
  rw [sourcesIn]
  constructor
  · intro ok
    cases listed : tree.entries? root with
    | none => simp [listed] at ok
    | some entries =>
      obtain ⟨top, located, found⟩ := entries?_eq_some_iff.1 listed
      simp only [listed] at ok
      cases treated : (storyFiles entries).mapM (sourceOfFile root) with
      | error failure => simp [treated, Except.map] at ok
      | ok read =>
        rw [treated] at ok
        exact ⟨top, entries, read, located, found, mapM_eq_ok_iff.1 treated, Except.ok.inj ok⟩
  · rintro ⟨top, entries, read, located, found, treated, rfl⟩
    simp only [entries?_eq_some_iff.2 ⟨top, located, found⟩, mapM_eq_ok_iff.2 treated]
    rfl

/-- No two documents that are read have one id. -/
theorem pairwise_sourceId_ne (wellNamed : tree.WellNamed)
    (found : tree.entryAt? top = some (.directory entries))
    (treated : (storyFiles entries).map (sourceOfFile root) = read.map .ok) :
    read.Pairwise fun source source' => source.sourceId ≠ source'.sourceId := by
  have apart : ((storyFiles entries).map (sourceOfFile root)).Pairwise fun result result' =>
      ∀ source source', result = .ok source → result' = .ok source' →
        source.sourceId ≠ source'.sourceId := by
    refine List.pairwise_map.2 ((pairwise_storyFiles wellNamed.distinct found).imp_of_mem ?_)
    rintro ⟨_, _⟩ ⟨_, _⟩ member member' ne source source' ok ok' same
    obtain ⟨file, rfl, rfl⟩ := (mem_storyFiles_iff wellNamed.distinct found).1 member
    obtain ⟨file', rfl, rfl⟩ := (mem_storyFiles_iff wellNamed.distinct found).1 member'
    rw [((file.sourceOfFile_eq_ok_iff_holds wellNamed).1 ok).sourceId,
      ((file'.sourceOfFile_eq_ok_iff_holds wellNamed).1 ok').sourceId] at same
    exact ne (congrArg StoryFile.way (StoryFile.sourceId_injective wellNamed same))
  rw [treated, List.pairwise_map] at apart
  exact apart.imp fun ne => ne _ _ rfl rfl

/-- The document of a text under the way to its file. -/
def sourceOfText (text : Location × String) : Source := .ofId (sourceIdOf text.1) text.2

/-- **A directory that lists the files of a story in the order of their ids** is read as it lists
them. -/
theorem sourcesIn_eq_ok_of_texts {texts : List (Location × String)} (top : Location)
    (located : tree.locate root = .ok top) (found : tree.entryAt? top = some (.directory entries))
    (files : storyFiles entries = texts.map fun text => (text.1, text.2.toUTF8))
    (sorted : (texts.map sourceOfText).Pairwise fun a b => a.sourceId ≤ b.sourceId) :
    sourcesIn tree root = .ok (texts.map sourceOfText) := by
  refine sourcesIn_eq_ok_iff_exists.2 ⟨top, entries, texts.map sourceOfText, located, found, ?_,
    (eq_sortedBy sorted fun _ => rfl).symm⟩
  rw [files, List.map_map, List.map_map]
  exact List.map_congr_left fun text _ => sourceOfFile_eq_ok_iff.2 ⟨text.2, rfl, rfl⟩

/-- **What is read and put in order are the documents**, whatever order it is read in. -/
theorem enumerates_sortedBy (wellNamed : tree.WellNamed)
    (found : tree.entryAt? top = some (.directory entries))
    (treated : (storyFiles entries).map (sourceOfFile root) = read.map .ok) :
    Enumerates tree top (sortedBy Source.sourceId read) := by
  have listed : ∀ {way content}, (way, content) ∈ storyFiles entries ↔
      ∃ file : StoryFile tree top, file.way = way ∧ file.content = content :=
    mem_storyFiles_iff wellNamed.distinct found
  have sorted := sortedBy_perm Source.sourceId read
  refine
    { increasing := ?_
      complete := fun file => ?_
      sound := fun source member => ?_ }
  · have apart := (sorted.pairwise_iff fun ne => Ne.symm ne).2
      (pairwise_sourceId_ne wellNamed found treated)
    exact List.pairwise_map.2 (((pairwise_sortedBy Source.sourceId read).and apart).imp fun h =>
      lt_of_le_of_ne h.1 h.2)
  · have member : sourceOfFile root (file.way, file.content) ∈ read.map .ok :=
      treated ▸ List.mem_map_of_mem (listed.2 ⟨file, rfl, rfl⟩)
    obtain ⟨source, member, ok⟩ := List.mem_map.1 member
    exact ⟨source, sorted.mem_iff.2 member, (file.sourceOfFile_eq_ok_iff_holds wellNamed).1 ok.symm⟩
  · have member : Except.ok source ∈ (storyFiles entries).map (sourceOfFile root) :=
      treated ▸ List.mem_map_of_mem (sorted.mem_iff.1 member)
    obtain ⟨⟨_, _⟩, inside, ok⟩ := List.mem_map.1 member
    obtain ⟨file, rfl, rfl⟩ := listed.1 inside
    exact ⟨file, (file.sourceOfFile_eq_ok_iff_holds wellNamed).1 ok⟩

/-- **The documents can be read** when the path leads to a directory and all files of the story are
texts. -/
theorem exists_sourcesIn_iff (wellNamed : tree.WellNamed) :
    (∃ sources, sourcesIn tree root = .ok sources) ↔
      ∃ top, tree.locate root = .ok top ∧ tree.hasDirectory top = true ∧
        ∀ file : StoryFile tree top, file.content.IsValidUTF8 := by
  constructor
  · rintro ⟨sources, ok⟩
    obtain ⟨top, entries, read, located, found, treated, rfl⟩ := sourcesIn_eq_ok_iff_exists.1 ok
    exact ⟨top, located, hasDirectory_iff_exists.2 ⟨entries, found⟩,
      (enumerates_sortedBy wellNamed found treated).isValidUTF8⟩
  · rintro ⟨top, located, there, texts⟩
    obtain ⟨entries, found⟩ := hasDirectory_iff_exists.1 there
    have treated : (storyFiles entries).map (sourceOfFile root) ∈ Set.range (List.map Except.ok) := by
      rw [Set.range_list_map]
      intro result member
      obtain ⟨⟨_, _⟩, inside, rfl⟩ := List.mem_map.1 member
      obtain ⟨file, rfl, rfl⟩ := (mem_storyFiles_iff wellNamed.distinct found).1 inside
      exact ⟨_, (sourceOfFile_eq_ok_iff.2 ⟨.ofByteArray file.content (texts file), rfl, rfl⟩).symm⟩
    obtain ⟨read, treated⟩ := treated
    exact ⟨_, sourcesIn_eq_ok_iff_exists.2 ⟨top, entries, read, located, found, treated.symm, rfl⟩⟩

/-- **What is read are the documents**, and if there are documents they are read. -/
theorem sourcesIn_eq_ok_iff (wellNamed : tree.WellNamed) :
    sourcesIn tree root = .ok sources ↔
      ∃ top, tree.locate root = .ok top ∧ tree.hasDirectory top = true ∧
        Enumerates tree top sources := by
  have read : ∀ {sources}, sourcesIn tree root = .ok sources →
      ∃ top, tree.locate root = .ok top ∧ tree.hasDirectory top = true ∧
        Enumerates tree top sources := by
    intro sources ok
    obtain ⟨top, entries, read, located, found, treated, rfl⟩ := sourcesIn_eq_ok_iff_exists.1 ok
    exact ⟨top, located, hasDirectory_iff_exists.2 ⟨entries, found⟩,
      enumerates_sortedBy wellNamed found treated⟩
  refine ⟨read, fun ⟨top, located, there, enumerates⟩ => ?_⟩
  obtain ⟨sources', ok⟩ :=
    (exists_sourcesIn_iff wellNamed).2 ⟨top, located, there, enumerates.isValidUTF8⟩
  obtain ⟨top', located', -, enumerates'⟩ := read ok
  obtain rfl := Except.ok.inj (located.symm.trans located')
  rw [ok, enumerates'.unique enumerates]

/-! ### Other listings -/

/-- The file in another tree that has the same files. -/
def StoryFile.carry (same : ∀ location, other.fileAt? location = tree.fileAt? location)
    (file : StoryFile tree top) : StoryFile other top :=
  { file with there := (same _).trans file.there }

theorem Enumerates.carry (same : ∀ location, other.fileAt? location = tree.fileAt? location)
    (enumerates : Enumerates tree top sources) : Enumerates other top sources where
  increasing := enumerates.increasing
  complete file := by
    obtain ⟨source, member, holds⟩ :=
      enumerates.complete (file.carry fun location => (same location).symm)
    exact ⟨source, member, ⟨holds.sourceId, holds.group, holds.raw⟩⟩
  sound source member := by
    obtain ⟨file, holds⟩ := enumerates.sound source member
    exact ⟨file.carry same, ⟨holds.sourceId, holds.group, holds.raw⟩⟩

/-- **What is read is exact, however directories list their entries.**  The same documents are read from
a tree in which directories list their entries in another order, and if none can be read from the one,
none can from the other.  They can be read if there is a directory and all files of the story in it are
texts.  Then each of these files has an id of its own, the ids of the documents increase strictly, and
the documents are what the files hold: the ids are the ways to them, and the groups are named after the
directories that they are in, or at the top after the files. -/
theorem sourcesIn_exact_however_listed (wellNamed : tree.WellNamed)
    (relisted : tree.Relisted other) (root : String) :
    (∀ sources, sourcesIn other root = .ok sources ↔ sourcesIn tree root = .ok sources) ∧
    ((∃ sources, sourcesIn tree root = .ok sources) ↔
      ∃ top, tree.locate root = .ok top ∧ tree.hasDirectory top = true ∧
        ∀ file : StoryFile tree top, file.content.IsValidUTF8) ∧
    ∀ sources, sourcesIn tree root = .ok sources →
      ∃ top, tree.locate root = .ok top ∧
        Function.Injective (StoryFile.sourceId : StoryFile tree top → String) ∧
        Enumerates tree top sources := by
  refine ⟨fun sources => ?_, exists_sourcesIn_iff wellNamed, fun sources ok => ?_⟩
  · have same := relisted.fileAt?_eq wellNamed.distinct
    rw [sourcesIn_eq_ok_iff wellNamed, sourcesIn_eq_ok_iff (relisted.wellNamed wellNamed)]
    simp only [relisted.locate_eq wellNamed.distinct, relisted.hasDirectory_eq wellNamed.distinct]
    exact exists_congr fun top => and_congr_right fun _ => and_congr_right fun _ =>
      ⟨Enumerates.carry fun location => (same location).symm, Enumerates.carry same⟩
  · obtain ⟨top, located, -, enumerates⟩ := (sourcesIn_eq_ok_iff wellNamed).1 ok
    exact ⟨top, located, StoryFile.sourceId_injective wellNamed, enumerates⟩

/-- A story with a file at the top and two in a directory, and a file beside them that is no text. -/
def cellarStory : FileTree where
  root := .directory
    [("story", .directory
      [("cellar", .directory [("a.md", .file "A".toUTF8), ("b.md", .file "B".toUTF8)]),
       ("notes.bin", .file ⟨#[255]⟩), ("start.md", .file "Hi".toUTF8)])]
  workingDirectory := []

/-- The story with both directories listed in another order. -/
def cellarStoryRelisted : FileTree where
  root := .directory
    [("story", .directory
      [("start.md", .file "Hi".toUTF8),
       ("cellar", .directory [("b.md", .file "B".toUTF8), ("a.md", .file "A".toUTF8)]),
       ("notes.bin", .file ⟨#[255]⟩)])]
  workingDirectory := []

theorem wellNamed_cellarStory : cellarStory.WellNamed := by
  refine Entry.wellNamed_directory (by decide) ⟨by decide, Entry.wellNamed_directory (by decide) ?_⟩
  refine ⟨⟨by decide, Entry.wellNamed_directory (by decide) ?_⟩,
    ⟨by decide, Entry.wellNamed_file _⟩, by decide, Entry.wellNamed_file _⟩
  exact ⟨⟨by decide, Entry.wellNamed_file _⟩, by decide, Entry.wellNamed_file _⟩

theorem relisted_cellarStory : cellarStory.Relisted cellarStoryRelisted where
  root := by
    refine @Entry.Relisted.within [] [] "story" _ _ (.trans (@Entry.Relisted.within [] _ "cellar" _ _
      (.here (List.Perm.swap _ _ []))) (.here (List.perm_append_singleton _ [_, _])))
  workingDirectory := rfl

theorem cellarStory_read_however_listed :
    cellarStory.WellNamed ∧ cellarStory.Relisted cellarStoryRelisted ∧
      (sourcesIn cellarStoryRelisted "story").toOption.map (·.map (·.sourceId)) =
        some ["cellar/a.md", "cellar/b.md", "start.md"] := by
  have read : sourcesIn cellarStory "story" = .ok (List.map sourceOfText
      [(["cellar", "a.md"], "A"), (["cellar", "b.md"], "B"), (["start.md"], "Hi")]) :=
    sourcesIn_eq_ok_of_texts ["story"] rfl rfl rfl (by decide +kernel)
  have same := (sourcesIn_exact_however_listed wellNamed_cellarStory relisted_cellarStory "story").1
  refine ⟨wellNamed_cellarStory, relisted_cellarStory, ?_⟩
  rw [(same _).2 read]
  rfl

end Document

end Gamebook
