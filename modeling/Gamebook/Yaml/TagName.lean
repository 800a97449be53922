/-!
# Names of tags

The name of a tag is a row of octets.  The characters that it is written with stand for their octets
in UTF-8, and escapes spell octets one by one, so that a name need not be a text.
-/

namespace Gamebook.Yaml

/-- The name of a tag, or a part of one. -/
abbrev TagName : Type := List UInt8

namespace TagName

/-- The name that characters spell. -/
def ofChars (s : List Char) : TagName := s.flatMap String.utf8EncodeChar

/-- The text of a name, if it is one. -/
def text? (name : TagName) : Option String := String.fromUTF8? name.toByteArray

/-- The part of a name in front of the first octet of zero, where a name ends. -/
def upToZero (name : TagName) : TagName := name.takeWhile (· != 0)

/-- A name in two parts is the name that both spell together. -/
theorem ofChars_append (s t : List Char) : ofChars (s ++ t) = ofChars s ++ ofChars t := by
  simp only [ofChars, List.flatMap_append]

/-- **A name without escapes is the text that it is written as.** -/
theorem text?_ofChars (s : List Char) : (ofChars s).text? = some (String.ofList s) := by
  have valid : (ofChars s).toByteArray.IsValidUTF8 := (String.ofList s).isValidUTF8
  simp only [text?, String.fromUTF8?, valid, dif_pos, Option.some.injEq]
  rfl

end TagName

end Gamebook.Yaml
