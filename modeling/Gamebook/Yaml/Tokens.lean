import Gamebook.Yaml.Block
import Gamebook.Yaml.Plain
import Gamebook.Yaml.Property
import Gamebook.Yaml.Quoted

/-!
# Cutting a text into tokens

Tokens are read one after the other.  Three things make this more than a loop over characters.

## Indentation

Outside of brackets a collection starts where something stands further in than the collection around
it, and ends where something stands further out.  `indent` is the column of the innermost collection
and `outer` the columns of those around it.

## Keys

That a text is a key is only known when the colon behind it is met.  The place of the last thing that
may turn out to be a key is therefore remembered, one for each level of brackets, and the tokens that
a key needs are put in front of it afterwards.  A key has to stand on one line and within 1024
octets.  Where something stands exactly at the column of its collection it has to be a key.

## What may start a key

`keyAllowed` says whether a key may start at this place: after a line break outside of brackets, and
after most indicators.
-/

namespace Gamebook.Yaml

/-- Something that may turn out to be a key. -/
structure PossibleKey where
  /-- It has to be a key. -/
  required : Bool
  /-- The number of tokens before it. -/
  position : Nat
  /-- Where it stands. -/
  place : Cursor

/-- A possible key is too far back. -/
def PossibleKey.isStale (key : PossibleKey) (now : Cursor) : Bool :=
  key.place.line < now.line || key.place.offset + 1024 < now.offset

/-- How far a text has been cut into tokens. -/
structure Scan where
  /-- The place reached. -/
  at_ : Cursor
  /-- The tokens so far. -/
  tokens : Array Token := #[]
  /-- The column of the innermost collection, or -1. -/
  indent : Int := -1
  /-- The columns of the collections around it, the inner ones first. -/
  outer : List Int := []
  /-- What may be a key at this level of brackets. -/
  possibleKey? : Option PossibleKey := none
  /-- What may be a key at the outer levels, the inner ones first. -/
  outerKeys : List (Option PossibleKey) := []
  /-- A key may start here. -/
  keyAllowed : Bool := true

namespace Scan

/-- The place is within brackets. -/
def inFlow (scan : Scan) : Bool := !scan.outerKeys.isEmpty

/-- One more token. -/
def push (scan : Scan) (token : Token) : Scan := { scan with tokens := scan.tokens.push token }

/-- One more token, in front of the token at a position. -/
def pushAt (scan : Scan) (position : Nat) (token : Token) : Scan :=
  { scan with
    tokens := scan.tokens.extract 0 position ++ #[token]
      ++ scan.tokens.extract position scan.tokens.size }

/-- The indicator of that many characters read as a token. -/
def take (scan : Scan) (count : Nat) (token : Token) : Scan :=
  { scan.push token with at_ := scan.at_.advance count }

/-! ### Keys -/

/-- What might have been a key is none; an error if it had to be one. -/
def dropKey (scan : Scan) : Except Error Scan :=
  if scan.possibleKey?.any (·.required) then .error .missingColon
  else .ok { scan with possibleKey? := none }

/-- A possible key unless it is too far back; an error if it had to be a key. -/
def freshKey (now : Cursor) : Option PossibleKey → Except Error (Option PossibleKey)
  | none => .ok none
  | some key =>
    if key.isStale now then (if key.required then .error .missingColon else .ok none)
    else .ok (some key)

/-- Forget all possible keys that are too far back. -/
def dropStaleKeys (scan : Scan) : Except Error Scan := do
  let possibleKey? ← freshKey scan.at_ scan.possibleKey?
  let outerKeys ← scan.outerKeys.mapM (freshKey scan.at_)
  .ok { scan with possibleKey?, outerKeys }

/-- What starts here may be a key. -/
def saveKey (scan : Scan) : Except Error Scan :=
  if !scan.keyAllowed then .ok scan
  else do
    let cleared ← scan.dropKey
    .ok { cleared with
      possibleKey? := some
        { required := !scan.inFlow && scan.indent == scan.at_.column
          position := scan.tokens.size
          place := scan.at_ } }

/-! ### Indentation -/

/-- End the collections that stand further in than a column. -/
def endCollections (column : Int) : List Int → Scan → Scan
  | [], scan => scan
  | next :: outer, scan =>
    if column < scan.indent then
      endCollections column outer { scan.push .blockEnd with indent := next, outer := outer }
    else scan

/-- End the collections that stand further in than a column; within brackets there are none. -/
def unroll (scan : Scan) (column : Int) : Scan :=
  if scan.inFlow then scan else endCollections column scan.outer scan

/-- Start a collection at a column, unless the innermost one stands there.  Its token goes in front of
the token at `position`, or to the end. -/
def roll (scan : Scan) (column : Nat) (position? : Option Nat) (token : Token) : Scan :=
  if scan.inFlow || column ≤ scan.indent then scan
  else
    let started := { scan with indent := column, outer := scan.indent :: scan.outer }
    match position? with
    | some position => started.pushAt position token
    | none => started.push token

/-! ### Gaps between tokens -/

/-- Skip spaces, comments and line breaks up to the next token, with a byte order mark at the start of
each line. -/
def skipGap : (fuel : Nat) → Scan → Scan
  | 0, scan => scan
  | fuel + 1, scan =>
    let at_ :=
      if scan.at_.column == 0 && scan.at_.isAt '\uFEFF' then scan.at_.advance 1 else scan.at_
    let tabs := scan.inFlow || !scan.keyAllowed
    let at_ := at_.advanceWhile fun c => c == ' ' || (tabs && c == '\t')
    let at_ := if at_.isAt '#' then at_.advanceWhile fun c => !isBreak c else at_
    if at_.rest.head?.any isBreak then
      skipGap fuel
        { scan with at_ := at_.skipBreak, keyAllowed := scan.keyAllowed || !scan.inFlow }
    else { scan with at_ := at_ }

/-! ### Single tokens -/

/-- The end of the text. -/
def readEnd (scan : Scan) : Except Error Scan := do
  let scan ← (scan.unroll (-1)).dropKey
  .ok ({ scan with keyAllowed := false }.push .textEnd)

/-- A directive. -/
def readDirectiveToken (scan : Scan) : Except Error Scan := do
  let scan ← (scan.unroll (-1)).dropKey
  let (token, after) ← readDirective scan.at_
  .ok { scan.push token with at_ := after, keyAllowed := false }

/-- The mark that starts or ends a document. -/
def readDocumentMark (scan : Scan) (token : Token) : Except Error Scan := do
  let scan ← (scan.unroll (-1)).dropKey
  .ok { scan.take 3 token with keyAllowed := false }

/-- An opening bracket. -/
def readOpening (scan : Scan) (token : Token) : Except Error Scan := do
  let scan ← scan.saveKey
  .ok { scan.take 1 token with
    possibleKey? := none
    outerKeys := scan.possibleKey? :: scan.outerKeys
    keyAllowed := true }

/-- A closing bracket. -/
def readClosing (scan : Scan) (token : Token) : Except Error Scan := do
  let scan ← scan.dropKey
  let scan := { scan.take 1 token with keyAllowed := false }
  match scan.outerKeys with
  | [] => .ok scan
  | key? :: outerKeys => .ok { scan with possibleKey? := key?, outerKeys }

/-- A comma. -/
def readComma (scan : Scan) : Except Error Scan := do
  let scan ← scan.dropKey
  .ok { scan.take 1 .flowEntry with keyAllowed := true }

/-- The dash of a list entry. -/
def readDash (scan : Scan) : Except Error Scan := do
  if !scan.inFlow && !scan.keyAllowed then .error .misplacedEntry
  let scan ← (scan.roll scan.at_.column none .blockSequenceStart).dropKey
  .ok { scan.take 1 .blockEntry with keyAllowed := true }

/-- The question mark in front of a key. -/
def readQuestionMark (scan : Scan) : Except Error Scan := do
  if !scan.inFlow && !scan.keyAllowed then .error .misplacedEntry
  let scan ← (scan.roll scan.at_.column none .blockMappingStart).dropKey
  .ok { scan.take 1 .key with keyAllowed := !scan.inFlow }

/-- The colon in front of a value.  If there is a possible key, it is one. -/
def readColon (scan : Scan) : Except Error Scan :=
  match scan.possibleKey? with
  | some key =>
    let scan := (scan.pushAt key.position .key).roll key.place.column (some key.position)
      .blockMappingStart
    .ok { scan.take 1 .value with possibleKey? := none, keyAllowed := false }
  | none =>
    if scan.inFlow then .ok { scan.take 1 .value with keyAllowed := false }
    else if !scan.keyAllowed then .error .misplacedEntry
    else
      let scan := scan.roll scan.at_.column none .blockMappingStart
      .ok { scan.take 1 .value with keyAllowed := true }

/-- An anchor or an alias. -/
def readAnchor (scan : Scan) (token : String → Token) : Except Error Scan := do
  let scan ← scan.saveKey
  let (name, after) ← readAnchorName scan.at_
  .ok { scan.push (token name) with at_ := after, keyAllowed := false }

/-- A tag. -/
def readTagToken (scan : Scan) : Except Error Scan := do
  let scan ← scan.saveKey
  let (token, after) ← readTag scan.inFlow scan.at_
  .ok { scan.push token with at_ := after, keyAllowed := false }

/-- A block of text. -/
def readBlockToken (scan : Scan) (folded : Bool) : Except Error Scan := do
  let scan ← scan.dropKey
  let (text, after) ← readBlock folded scan.indent scan.at_
  .ok { scan.push (.scalar (String.ofList text) false) with at_ := after, keyAllowed := true }

/-- A quoted text. -/
def readQuotedToken (scan : Scan) (single : Bool) : Except Error Scan := do
  let scan ← scan.saveKey
  let (text, after) ← readQuoted single scan.at_
  .ok { scan.push (.scalar (String.ofList text) false) with at_ := after, keyAllowed := false }

/-- A plain text. -/
def readPlainToken (scan : Scan) : Except Error Scan := do
  let scan ← scan.saveKey
  let plain ← readPlain scan.inFlow (scan.indent + 1).toNat scan.at_
  .ok { scan.push (.scalar (String.ofList plain.text) true) with
    at_ := plain.after
    keyAllowed := plain.endedLine }

/-- A plain text may start with this character. -/
def startsPlain (scan : Scan) (c : Char) : Bool :=
  if c == '-' then !(scan.at_.peek? 1).any isSpace
  else if c == '?' || c == ':' then !scan.inFlow && !scan.at_.gapOrEnd 1
  else !(isGap c || ",[]\x7b\x7d#&*!|>'\"%@\x60".toList.contains c)

/-- Read the token that starts here with the character `c`. -/
def readToken (scan : Scan) (c : Char) : Except Error Scan :=
  let indicator := scan.at_.gapOrEnd 1
  if scan.at_.column == 0 && c == '%' then scan.readDirectiveToken
  else if scan.at_.isMark '-' then scan.readDocumentMark .documentStart
  else if scan.at_.isMark '.' then scan.readDocumentMark .documentEnd
  else if c == '[' then scan.readOpening .flowSequenceStart
  else if c == '{' then scan.readOpening .flowMappingStart
  else if c == ']' then scan.readClosing .flowSequenceEnd
  else if c == '}' then scan.readClosing .flowMappingEnd
  else if c == ',' then scan.readComma
  else if c == '-' && indicator then scan.readDash
  else if c == '?' && (scan.inFlow || indicator) then scan.readQuestionMark
  else if c == ':' && (scan.inFlow || indicator) then scan.readColon
  else if c == '*' then scan.readAnchor .alias
  else if c == '&' then scan.readAnchor .anchor
  else if c == '!' then scan.readTagToken
  else if c == '|' && !scan.inFlow then scan.readBlockToken false
  else if c == '>' && !scan.inFlow then scan.readBlockToken true
  else if c == '\'' then scan.readQuotedToken true
  else if c == '"' then scan.readQuotedToken false
  else if scan.startsPlain c then scan.readPlainToken
  else .error .unexpectedCharacter

/-- Read tokens up to the end of the text.  Every token but the last takes a character. -/
def readAll : (fuel : Nat) → Scan → Except Error (Array Token)
  | 0, scan => .ok scan.tokens
  | fuel + 1, scan => do
    let scan := skipGap (scan.at_.rest.length + 1) scan
    let scan ← scan.dropStaleKeys
    let scan := scan.unroll scan.at_.column
    match scan.at_.rest with
    | [] => do
      let scan ← scan.readEnd
      .ok scan.tokens
    | c :: _ => do
      let scan ← scan.readToken c
      readAll fuel scan

end Scan

/-- The tokens of a text; the last one is the end of the text. -/
def tokens (text : List Char) : Except Error (List Token) :=
  if !text.all isReadable then .error .unreadableCharacter
  else (Scan.readAll (text.length + 1) { at_ := { rest := text } }).map (·.toList)

end Gamebook.Yaml
