import Gamebook.Proofs.Export.Write

/-!
# A document is written as a whole or not at all

Writing a document takes six kinds of operations, and each of them may be refused: a directory on the
way cannot be made, the temporary file cannot be created, filled or synced, or it cannot be moved over the
path.  Where that happens is up to the tree and to the medium that the tree is kept on, and neither is
known.  But there are only two ends (`writeDocument_all_or_nothing`): the document is at its path and
no other file is different, or every file is as it was.

## What has to be promised

That the temporary name is not taken (`FreshOn`): what is there would be written over, and removed.  And
that files can be removed (`Medium.Removes`), since otherwise the temporary file stays after a failure.
Nothing is asked of the path.  It may be empty or end in a slash, it may lead to a directory or through a
file, and then the document is not written.
-/

namespace Gamebook.Export

open Gamebook.FileTree Gamebook.Story

/-- The text is the file at the path, what is reported of it is true, and no other file is new, gone or
has other bytes. -/
structure Delivered (tree after : FileTree) (path text : String) (report : Written) : Prop where
  /-- The path leads to a file of these bytes, and all other files are the same. -/
  only : ∃ location, after.locate path = .ok location ∧
    after.fileAt? location = some text.toUTF8 ∧
    ∀ other, other ≠ location → after.fileAt? other = tree.fileAt? other
  path_eq : report.path = path
  /-- The number of bytes is reported. -/
  bytes : report.bytes = text.toUTF8.size
  /-- The digest of the bytes is reported. -/
  digest : report.digest = Digest.sha256 text.toUTF8.toList
  /-- It is a text of sixty-four hexadecimal digits, letters being lower-case. -/
  hexadecimal : report.digest.toList.length = 64 ∧
    ∀ c ∈ report.digest.toList, Digest.isLowerHex c = true

variable {tree after : FileTree} {medium : Medium} {stamp path text : String}

theorem Wrote.delivered {location : Location} (distinct : tree.Distinct)
    (fresh : FreshOn medium tree stamp path)
    (wrote : Wrote tree after (needed medium tree stamp path) path text location) :
    Delivered tree after path text (.ofText path text) where
  only := ⟨location, wrote.located, wrote.content, fun other ne =>
    (wrote.others other ne).eq_of_fresh distinct fresh⟩
  path_eq := rfl
  bytes := rfl
  digest := rfl
  hexadecimal := ⟨Digest.length_sha256 _, fun _ => Digest.isLowerHex_of_mem_sha256⟩

/-- **Writing a document is all or nothing**, whatever the medium refuses: if it succeeds, the document
is at its path and reported truly, and no other file has changed, and if it fails, no file has. -/
theorem writeDocument_all_or_nothing (medium : Medium) (removes : medium.Removes) (tree : FileTree)
    (distinct : tree.Distinct) (stamp path : String) (fresh : FreshOn medium tree stamp path)
    (graph : Graph) :
    (∀ after report, writeDocumentOn medium tree stamp path graph = (after, .ok report) →
        Delivered tree after path (renderDocument graph) report) ∧
      ∀ after error, writeDocumentOn medium tree stamp path graph = (after, .error error) →
        ∀ location, after.fileAt? location = tree.fileAt? location := by
  constructor
  · intro after report wrote
    obtain ⟨rfl, location, wrote⟩ := wrote_of_writeDocumentOn_ok distinct wrote
    exact wrote.delivered distinct fresh
  · intro after error failed location
    obtain ⟨-, untouched⟩ := untouched_of_writeDocumentOn_error distinct removes failed
    exact (untouched location).eq_of_fresh distinct fresh

/-- A directory with the document of an earlier story. -/
def oldStory : FileTree where
  root := .directory [("out", .directory [("story.json", .file "{}\n".toUTF8)])]
  workingDirectory := []

theorem distinct_oldStory : oldStory.Distinct := by
  refine Entry.distinct_directory (by decide) ?_
  exact Entry.distinct_directory (by decide) (Entry.distinct_file _)

/-- A disk on which there is no room for another byte. -/
def fullDisk : Medium where
  refusal?
    | _, .fillFile _ _ => some (.refused "No space left on device" "28")
    | _, _ => none

theorem exists_report_of_isOk {result : FileTree × Except WriteError Written}
    (done : result.2.isOk = true) : ∃ after report, result = (after, .ok report) := by
  obtain ⟨after, _ | report⟩ := result
  · cases done
  · exact ⟨after, report, rfl⟩

theorem exists_error_of_message {result : FileTree × Except WriteError Written} {message : String}
    (said : result.2.mapError WriteError.message = .error message) :
    ∃ after error, result = (after, .error error) ∧ error.message = message := by
  obtain ⟨after, error | _⟩ := result
  · exact ⟨after, error, rfl, Except.error.inj said⟩
  · cases said

/-- **The old document is replaced, or kept.**  On a sound medium the document of a story without groups
takes its place, and what is reported is its path, the known digest of its two bytes and their number.  On a
full disk the old document is still there. -/
theorem oldStory_replaced_or_kept :
    (∃ after report, writeDocumentOn .sound oldStory "1" "out/story.json" .empty = (after, .ok report) ∧
        Delivered oldStory after "out/story.json" "\x7b\x7d" report ∧
        report.digest = "44136fa355b3678a1146ad16f7e8649e94fb4fc21fe77e8310c060f61caaff8a" ∧
        report.bytes = 2) ∧
      ∃ after error, writeDocumentOn fullDisk oldStory "1" "out/story.json" .empty = (after, .error error) ∧
        error.message =
          "failed to write out/story.json.tmp.1: No space left on device (os error 28)" ∧
        ∀ location, after.fileAt? location = oldStory.fileAt? location := by
  have removes : fullDisk.Removes := fun _ _ => rfl
  have text : renderDocument .empty = "\x7b\x7d" := by decide +kernel
  constructor
  · obtain ⟨after, report, wrote⟩ := exists_report_of_isOk (by decide +kernel :
      (writeDocumentOn .sound oldStory "1" "out/story.json" .empty).2.isOk = true)
    have delivered := (writeDocument_all_or_nothing .sound Medium.removes_sound oldStory
      distinct_oldStory "1" "out/story.json" (by decide +kernel) .empty).1 after report wrote
    rw [text] at delivered
    refine ⟨after, report, wrote, delivered, ?_, ?_⟩
    · rw [delivered.digest]
      decide +kernel
    · rw [delivered.bytes]
      decide +kernel
  · obtain ⟨after, error, failed, said⟩ := exists_error_of_message (by decide +kernel :
      (writeDocumentOn fullDisk oldStory "1" "out/story.json" .empty).2.mapError WriteError.message =
        .error "failed to write out/story.json.tmp.1: No space left on device (os error 28)")
    exact ⟨after, error, failed, said, (writeDocument_all_or_nothing fullDisk removes oldStory
      distinct_oldStory "1" "out/story.json" (by decide +kernel) .empty).2 after error failed⟩

end Gamebook.Export
