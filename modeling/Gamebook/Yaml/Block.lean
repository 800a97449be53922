import Gamebook.Decimal.Numeral
import Gamebook.Yaml.Cursor

/-!
# Blocks of text

A block of text is all lines that are indented by at least its indentation, which its header states or
its first line shows.  A literal block keeps its line breaks; a folded one joins two lines by a space
where neither starts with a space.  The header also says what becomes of the line breaks at the end:
one is kept, or none, or all of them.
-/

namespace Gamebook.Yaml

/-- What becomes of the line breaks at the end of a block. -/
inductive Chomping where
  /-- None is kept. -/
  | strip
  /-- The first one is kept. -/
  | clip
  /-- All are kept. -/
  | keep
  deriving DecidableEq, Repr

/-- What the header of a block says. -/
structure BlockHeader where
  /-- What becomes of the line breaks at the end. -/
  chomping : Chomping := .clip
  /-- How much further than its surroundings the block is indented, if that is stated. -/
  increment? : Option Nat := none
  deriving Repr

/-- What a sign in the header says. -/
def chompingOf? : Char → Option Chomping
  | '+' => some .keep
  | '-' => some .strip
  | _ => none

/-- The indentation that a digit in the header states; it cannot be zero. -/
def incrementOf? (c : Char) : Except Error (Option Nat) :=
  if c == '0' then .error .badBlockHeader
  else if c.isDigit then .ok (some (c.toNat - '0'.toNat)) else .ok none

/-- Read the sign and the digit of a header, in either order, with the number of characters. -/
def readBlockHeader (text : List Char) : Except Error (BlockHeader × Nat) :=
  match text with
  | [] => .ok ({}, 0)
  | c :: rest =>
    match chompingOf? c with
    | some chomping =>
      match rest with
      | [] => .ok ({ chomping }, 1)
      | d :: _ => do
        match (← incrementOf? d) with
        | some n => .ok ({ chomping, increment? := some n }, 2)
        | none => .ok ({ chomping }, 1)
    | none => do
      match (← incrementOf? c) with
      | none => .ok ({}, 0)
      | some n =>
        match rest.head?.bind chompingOf? with
        | some chomping => .ok ({ chomping, increment? := some n }, 2)
        | none => .ok ({ increment? := some n }, 1)

/-- Empty lines before a line of a block. -/
structure EmptyLines where
  /-- What their line breaks read as. -/
  breaks : List Char
  /-- The place after the indentation of the next line. -/
  after : Cursor
  /-- The widest indentation met. -/
  widest : Nat
  deriving Repr

/-- Skip empty lines and the indentation of the next line, up to the column `indent`, or as far as it
goes if `indent` is zero. -/
def skipEmptyLines (indent : Nat) : (fuel : Nat) → EmptyLines → Except Error EmptyLines
  | 0, lines => .ok lines
  | fuel + 1, lines =>
    let spaces := (lines.after.rest.takeWhile (· == ' ')).length
    let wanted := if indent = 0 then spaces else min spaces (indent - lines.after.column)
    let at_ := lines.after.advance wanted
    let widest := max lines.widest at_.column
    if (indent = 0 || at_.column < indent) && at_.isAt '\t' then .error .tabInIndentation
    else if at_.rest.head?.any isBreak then
      let (text, next) := at_.readBreak
      skipEmptyLines indent fuel ⟨lines.breaks ++ text, next, widest⟩
    else .ok ⟨lines.breaks, at_, widest⟩

/-- What has been read of a block. -/
structure BlockText where
  /-- The text up to the last line break. -/
  text : List Char
  /-- What the break of the last line reads as. -/
  lastBreak : List Char
  /-- What the breaks of the empty lines after it read as. -/
  emptyBreaks : List Char
  /-- The last line starts with a space or a tab. -/
  spaced : Bool
  /-- The place after the block. -/
  after : Cursor
  deriving Repr

/-- Read the lines of a block on. -/
def blockLines (folded : Bool) (indent : Nat) : (fuel : Nat) → BlockText → Except Error BlockText
  | 0, block => .ok block
  | fuel + 1, block =>
    let at_ := block.after
    if at_.column != indent || at_.atEnd then .ok block
    else do
      let spaced := at_.rest.head?.any isSpace
      let joint :=
        if folded && block.lastBreak == ['\n'] && !block.spaced && !spaced then
          if block.emptyBreaks.isEmpty then [' '] else []
        else block.lastBreak
      let line := at_.rest.takeWhile fun c => !isBreak c
      let (lastBreak, next) := (at_.advance line.length).readBreak
      let empty ← skipEmptyLines indent (next.rest.length + 1) ⟨[], next, 0⟩
      blockLines folded indent fuel
        ⟨block.text ++ joint ++ block.emptyBreaks ++ line, lastBreak, empty.breaks, spaced, empty.after⟩

/-- Read the block of text whose indicator stands here.  `parent` is the indentation of the collection
around it, negative if there is none. -/
def readBlock (folded : Bool) (parent : Int) (at_ : Cursor) : Except Error (List Char × Cursor) := do
  let at_ := at_.advance 1
  let (header, count) ← readBlockHeader at_.rest
  let at_ := (at_.advance count).skipToBreak
  if !at_.breakOrEnd then .error .badBlockHeader
  let at_ := at_.skipBreak
  let stated := match header.increment? with
    | some n => (max parent 0).toNat + n
    | none => 0
  let leading ← skipEmptyLines stated (at_.rest.length + 1) ⟨[], at_, 0⟩
  let indent :=
    if stated = 0 then max (max leading.widest (parent + 1).toNat) 1 else stated
  let block ← blockLines folded indent (at_.rest.length + 1)
    ⟨[], [], leading.breaks, false, leading.after⟩
  let kept := match header.chomping with
    | .strip => []
    | .clip => block.lastBreak
    | .keep => block.lastBreak ++ block.emptyBreaks
  .ok (block.text ++ kept, block.after)

end Gamebook.Yaml
