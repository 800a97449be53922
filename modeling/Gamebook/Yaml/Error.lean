/-!
# What is wrong with a YAML text

The causes for which a text is not the text of one value.  They follow the way a text is read: its
characters, its tokens, the nodes made of them, and the value that the nodes stand for.
-/

namespace Gamebook.Yaml

/-- Why a text has no value. -/
inductive Error where
  /-- A control character stands in the text. -/
  | unreadableCharacter
  /-- No token starts with the character. -/
  | unexpectedCharacter
  /-- A tab stands where the indentation is counted. -/
  | tabInIndentation
  /-- A key that has to be one is not followed by a colon. -/
  | missingColon
  /-- A list entry, a key or a value stands where none may start. -/
  | misplacedEntry
  /-- A directive cannot be read. -/
  | badDirective
  /-- The name of an anchor or an alias cannot be read. -/
  | badAnchor
  /-- A tag cannot be read, or its handle has not been introduced. -/
  | badTag
  /-- An escape in a quoted text cannot be read. -/
  | badEscape
  /-- A quoted text is not closed. -/
  | unclosedQuote
  /-- The header of a block of text cannot be read. -/
  | badBlockHeader
  /-- A colon stands in a plain text right before a bracket or a comma. -/
  | unexpectedColon
  /-- The tokens do not form a node. -/
  | unexpectedToken
  /-- More than one document. -/
  | severalDocuments
  /-- An alias for which there is no anchor before it. -/
  | unknownAlias
  /-- Collections are nested too deep. -/
  | tooDeep
  /-- Aliases are followed too often. -/
  | tooManyAliases
  /-- Two keys of a mapping are equal. -/
  | duplicateKey
  /-- A text is not of the type that its tag asks for, or an integer is too large. -/
  | badScalar
  deriving DecidableEq, Repr

end Gamebook.Yaml
