import Gamebook.Text.Blank
import Gamebook.Text.Lead

/-!
# Front matter

A document opens with a block of metadata between two marks of three dashes, and the rest of it is
prose.  A document that does not open with the mark is prose throughout, and one whose block is never
closed cannot be split.

The block ends at the first mark after the opening one, wherever on its line that stands, so that the
text of a document is an opening mark, its block, a closing mark and its prose, and a block never holds
a mark.  In the prose after a block a backslash is written as a slash, since both open an inline marker.
-/

namespace Gamebook.Document

/-! ### The parts of a document -/

/-- The mark that opens and closes the metadata block. -/
def mark : List Char := ['-', '-', '-']

/-! ### Splitting a document -/

/-- A document in its two parts. -/
structure FrontMatter where
  /-- The text of the metadata block, if the document opens with one. -/
  metadata? : Option String
  /-- The prose. -/
  body : String
  deriving DecidableEq, Repr

/-- The metadata block is opened and never closed. -/
inductive SplitError where
  | unterminated
  deriving DecidableEq, Repr

/-- What is reported about a document that cannot be split. -/
def SplitError.message : SplitError → String
  | .unterminated => "front matter opened with \x60---\x60 but never closed"

/-- The byte order mark. -/
def byteOrderMark : Char := '\uFEFF'

/-- The text of a document without byte order marks in front and without blanks at its ends. -/
def content (raw : List Char) : List Char := Text.trimmed (raw.dropWhile (· == byteOrderMark))

/-- The prose behind a metadata block: without blanks at its ends, every backslash a slash. -/
def prose (text : List Char) : List Char :=
  (Text.trimmed text).map fun c => if c = '\\' then '/' else c

/-- Split the text of a document into its metadata block and its prose. -/
def splitFrontMatter (raw : String) : Except SplitError FrontMatter :=
  let text := content raw.toList
  match Text.following? mark text with
  | none => .ok ⟨none, String.ofList text⟩
  | some rest =>
    match Text.cutAt? mark rest with
    | none => .error .unterminated
    | some (block, after) => .ok ⟨some (String.ofList block), String.ofList (prose after)⟩

end Gamebook.Document
