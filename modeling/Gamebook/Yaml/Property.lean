import Gamebook.Decimal.Numeral
import Gamebook.Yaml.Token

/-!
# Anchors, tags and directives

What may stand in front of a node, and in front of a document.  A tag is a handle between exclamation
marks with a suffix, or a single exclamation mark with a suffix, or a full name in angle brackets.
Directives say which handles there are.

In a tag a percent sign starts an escape, which spells an octet.  As many escapes as the first octet of
a character calls for stand together, but what they spell need not be a character; and an octet of zero
ends the tag, although the text of the tag goes on.
-/

namespace Gamebook.Yaml

/-! ### Anchors and aliases -/

/-- A character that may stand right behind the name of an anchor. -/
def endsAnchor (c : Char) : Bool :=
  isGap c || c == '?' || c == ':' || c == ',' || c == ']' || c == '}' || c == '%' || c == '@'
    || c == '\x60'

/-- Read the name of the anchor or alias whose indicator stands here. -/
def readAnchorName (at_ : Cursor) : Except Error (String × Cursor) :=
  let at_ := at_.advance 1
  let name := at_.rest.takeWhile isNameChar
  let after := at_.advance name.length
  if !name.isEmpty && after.rest.head?.all endsAnchor then .ok (String.ofList name, after)
  else .error .badAnchor

/-! ### Tags -/

/-- A character of the suffix of a tag, the percent sign of an escape included. -/
def isTagChar (c : Char) : Bool :=
  isNameChar c || ";/?:@&=+$.%!~*'()".toList.contains c

/-- A character of a full name in angle brackets. -/
def isFullTagChar (c : Char) : Bool := isTagChar c || c == ',' || c == '[' || c == ']'

/-- The octet of an escape: a percent sign and two hexadecimal digits. -/
def readOctet? : List Char → Option (UInt8 × List Char)
  | '%' :: high :: low :: rest =>
    (Numeral.read 16 [high, low]).map fun octet => (octet.toUInt8, rest)
  | _ => none

/-- How many octets follow the first octet of a character. -/
def trailingCount? (octet : UInt8) : Option Nat :=
  if octet < 0x80 then some 0
  else if 0xC0 ≤ octet ∧ octet < 0xE0 then some 1
  else if 0xE0 ≤ octet ∧ octet < 0xF0 then some 2
  else if 0xF0 ≤ octet ∧ octet < 0xF8 then some 3
  else none

/-- Read the escapes of that many further octets of a character. -/
def readTrailing? : (count : Nat) → List Char → Option (TagName × List Char)
  | 0, text => some ([], text)
  | count + 1, text => do
    let (octet, rest) ← readOctet? text
    if 0x80 ≤ octet ∧ octet < 0xC0 then
      let (octets, rest) ← readTrailing? count rest
      some (octet :: octets, rest)
    else none

/-- Read the escapes of the octets of a character.  Their number fits the first of them; that they
spell a character at all is not asked. -/
def readEscapes? (text : List Char) : Option (TagName × List Char) := do
  let (octet, rest) ← readOctet? text
  let (octets, rest) ← readTrailing? (← trailingCount? octet) rest
  some (octet :: octets, rest)

/-- Read the characters of a tag that meet a condition, escapes resolved, with the rest of the text. -/
def readTagChars (p : Char → Bool) : (fuel : Nat) → List Char → Except Error (TagName × List Char)
  | 0, text => .ok ([], text)
  | fuel + 1, text =>
    match text with
    | [] => .ok ([], [])
    | c :: rest =>
      if !p c then .ok ([], text)
      else if c == '%' then
        match readEscapes? text with
        | some (octets, rest) => do
          let (name, rest) ← readTagChars p fuel rest
          .ok (octets ++ name, rest)
        | none => .error .badTag
      else do
        let (name, rest) ← readTagChars p fuel rest
        .ok (TagName.ofChars [c] ++ name, rest)

/-- Read a tag's characters from a place on. -/
def readTagPart (p : Char → Bool) (at_ : Cursor) : Except Error (TagName × Cursor) := do
  let (name, rest) ← readTagChars p at_.rest.length at_.rest
  .ok (name, at_.advance (at_.rest.length - rest.length))

/-- Read a handle: an exclamation mark with name characters and, if there is one, a second mark. -/
def readHandle (at_ : Cursor) : List Char × Cursor :=
  let name := (at_.rest.drop 1).takeWhile isNameChar
  let after := at_.advance (name.length + 1)
  if after.isAt '!' then ('!' :: name ++ ['!'], after.advance 1) else ('!' :: name, after)

/-- Read the tag that starts here. -/
def readTag (inFlow : Bool) (at_ : Cursor) : Except Error (Token × Cursor) := do
  let (handle, suffix, after) ←
    if at_.peek? 1 == some '<' then do
      let (suffix, after) ← readTagPart isFullTagChar (at_.advance 2)
      if suffix.isEmpty || !after.isAt '>' then .error .badTag
      else .ok ([], suffix, after.advance 1)
    else
      let (handle, afterHandle) := readHandle at_
      if 1 < handle.length && handle.getLast? == some '!' then do
        let (suffix, after) ← readTagPart isTagChar afterHandle
        if suffix.isEmpty then .error .badTag else .ok (handle, suffix, after)
      else do
        let (more, after) ← readTagPart isTagChar afterHandle
        let suffix := (TagName.ofChars (handle.drop 1) ++ more).upToZero
        .ok (if suffix.isEmpty then ([], TagName.ofChars ['!'], after) else (['!'], suffix, after))
  if after.gapOrEnd 0 || (inFlow && after.isAt ',') then
    .ok (.tag (String.ofList handle) suffix.upToZero, after)
  else .error .badTag

/-! ### Directives -/

/-- Read a number of at most nine digits. -/
def readVersionNumber (at_ : Cursor) : Except Error (Nat × Cursor) :=
  let digits := at_.rest.takeWhile Char.isDigit
  match Numeral.read 10 digits with
  | some n => if digits.length ≤ 9 then .ok (n, at_.advance digits.length) else .error .badDirective
  | none => .error .badDirective

/-- Read the rest of a directive that gives the version. -/
def readVersion (at_ : Cursor) : Except Error (Token × Cursor) := do
  let (major, at_) ← readVersionNumber (at_.advanceWhile isSpace)
  if !at_.isAt '.' then .error .badDirective
  let (minor, at_) ← readVersionNumber (at_.advance 1)
  .ok (.versionDirective major minor, at_)

/-- Read the rest of a directive that introduces a handle. -/
def readTagHandle (at_ : Cursor) : Except Error (Token × Cursor) := do
  let at_ := at_.advanceWhile isSpace
  if !at_.isAt '!' then .error .badDirective
  let (handle, after) := readHandle at_
  if handle.getLast? != some '!' || !after.rest.head?.any isSpace then .error .badDirective
  let (stem, after) ← readTagPart isFullTagChar (after.advanceWhile isSpace)
  if stem.isEmpty || !after.gapOrEnd 0 then .error .badDirective
  .ok (.tagDirective (String.ofList handle) stem.upToZero, after)

/-- Read the directive that starts here, with the line break behind it. -/
def readDirective (at_ : Cursor) : Except Error (Token × Cursor) := do
  let at_ := at_.advance 1
  let name := at_.rest.takeWhile isNameChar
  let after := at_.advance name.length
  if !after.gapOrEnd 0 then .error .badDirective
  let (token, after) ←
    if name == "YAML".toList then readVersion after
    else if name == "TAG".toList then readTagHandle after
    else .error .badDirective
  let after := after.skipToBreak
  if after.breakOrEnd then .ok (token, after.skipBreak) else .error .badDirective

end Gamebook.Yaml
