import Gamebook.Yaml.Cursor
import Gamebook.Yaml.TagName

/-!
# Tokens

The pieces that a text is cut into.  Brackets, commas and colons are tokens of their own; collections
that are told by indentation get a token where they start and one where they end, although no
character stands for those.
-/

namespace Gamebook.Yaml

/-- A piece of a text. -/
inductive Token where
  | versionDirective (major minor : Nat)
  | tagDirective (handle : String) (stem : TagName)
  | documentStart
  | documentEnd
  | textEnd
  | blockSequenceStart
  | blockMappingStart
  | blockEnd
  | flowSequenceStart
  | flowSequenceEnd
  | flowMappingStart
  | flowMappingEnd
  | blockEntry
  | flowEntry
  | key
  | value
  | alias (name : String)
  | anchor (name : String)
  /-- A tag, as its handle and what stands behind it. -/
  | tag (handle : String) (suffix : TagName)
  /-- A text; `plain` says that it stands without quotes and not as a block. -/
  | scalar (text : String) (plain : Bool)
  deriving DecidableEq, Repr

end Gamebook.Yaml
