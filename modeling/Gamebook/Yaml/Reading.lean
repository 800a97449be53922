import Gamebook.Yaml.Node
import Gamebook.Yaml.Scalar

/-!
# Reading a value

The value of a text is the value of its only node.  An alias stands for the node with its anchor, as
if that were written again in its place.

Anchors are numbered by the count of distinct names met before them, and an alias refers to the number
that its name has there; what counts is the last node with that number.  A node may contain an alias
for itself, which would go on for ever: collections may be nested 128 deep, and aliases may be
followed a hundred times as often as the text has parts.
-/

namespace Gamebook.Yaml

/-! ### Anchors -/

/-- A node whose aliases refer to anchors by number. -/
inductive Linked where
  | alias (number : Nat)
  | scalar (tag? : Option TagName) (text : String) (plain : Bool)
  | sequence (tag? : Option TagName) (items : List Linked)
  | mapping (tag? : Option TagName) (entries : List (Linked × Linked))
  deriving Repr, Inhabited

/-- The anchors met so far.  A node is known by its place, the number of parts of the text before
it. -/
structure Anchors where
  /-- The numbers of the names, the latest first. -/
  numbers : List (String × Nat) := []
  /-- The number of distinct names. -/
  count : Nat := 0
  /-- The places of the nodes that the numbers refer to, the latest first. -/
  places : List (Nat × Nat) := []
  /-- The nodes at the places. -/
  nodes : List (Nat × Linked) := []
  /-- The number of parts of the text met so far. -/
  parts : Nat := 0

namespace Anchors

/-- The number of a name. -/
def number? (anchors : Anchors) (name : String) : Option Nat := anchors.numbers.lookup name

/-- The node that a number refers to. -/
def node? (anchors : Anchors) (number : Nat) : Option Linked :=
  (anchors.places.lookup number).bind fun place => anchors.nodes.lookup place

/-- Go to a node of that many parts, which may have a name. -/
def enter (anchors : Anchors) (name? : Option String) (parts : Nat) : Anchors :=
  match name? with
  | none => { anchors with parts := anchors.parts + parts }
  | some name =>
    { anchors with
      numbers := (name, anchors.count) :: anchors.numbers
      count := if (anchors.number? name).isSome then anchors.count else anchors.count + 1
      places := (anchors.count, anchors.parts) :: anchors.places
      parts := anchors.parts + parts }

/-- Remember the node that starts at a place. -/
def leave (anchors : Anchors) (place : Nat) (node : Linked) : Anchors :=
  { anchors with nodes := (place, node) :: anchors.nodes }

end Anchors

mutual

/-- Number the anchors of a node in the order in which they are written. -/
def link : Node → StateT Anchors (Except Error) Linked
  | .alias name => do
    modify (·.enter none 1)
    match (← get).number? name with
    | some number => pure (.alias number)
    | none => throw .unknownAlias
  | .scalar anchor? tag? text plain => do
    let place := (← get).parts
    modify (·.enter anchor? 1)
    let linked := .scalar tag? text plain
    modify (·.leave place linked)
    pure linked
  | .sequence anchor? tag? items => do
    let place := (← get).parts
    modify (·.enter anchor? 2)
    let linked := .sequence tag? (← linkItems items)
    modify (·.leave place linked)
    pure linked
  | .mapping anchor? tag? entries => do
    let place := (← get).parts
    modify (·.enter anchor? 2)
    let linked := .mapping tag? (← linkEntries entries)
    modify (·.leave place linked)
    pure linked

/-- Number the anchors of the items of a list. -/
def linkItems : List Node → StateT Anchors (Except Error) (List Linked)
  | [] => pure []
  | item :: items => do
    let item ← link item
    pure (item :: (← linkItems items))

/-- Number the anchors of the entries of a mapping. -/
def linkEntries : List (Node × Node) → StateT Anchors (Except Error) (List (Linked × Linked))
  | [] => pure []
  | (key, value) :: entries => do
    let key ← link key
    let value ← link value
    pure ((key, value) :: (← linkEntries entries))

end

/-! ### Values of nodes -/

/-- A tag of the program's own starts with an exclamation mark; what stands behind it is the name.  A
lone exclamation mark is its own name, and a name that is no text does not count. -/
def ownTag? : TagName → Option String
  | [0x21] => some "!"
  | 0x21 :: name => TagName.text? name
  | _ => none

/-- A value with the tag of its node, if that is one of the program's own. -/
def withTag (tag? : Option TagName) (value : Value) : Value :=
  match tag?.bind ownTag? with
  | some own => .tagged own value
  | none => value

/-- What a text stands for.  A tag of the program's own leaves the text what it is without one. -/
def scalarValue (tag? : Option TagName) (text : String) (plain : Bool) : Except Error Value :=
  let untagged := if plain then Scalar.resolve text else .ok (.string text)
  match tag? with
  | none => untagged
  | some (0x21 :: _) => untagged.map (withTag tag?)
  | some tag => Scalar.resolveTagged tag text

/-- Count an alias that is followed; `jumps` says how many more may be. -/
def followAlias : StateT Nat (Except Error) Unit := do
  match (← get) with
  | 0 => throw .tooManyAliases
  | jumps + 1 => set jumps

/-- The entries of a mapping with one more entry, whose key must be new. -/
def addEntry (entries : List (Value × Value)) (key : Value) : Except Error Unit :=
  if entries.any fun entry => key.same entry.1 then .error .duplicateKey else .ok ()

/-- The entries of a mapping from the values of its keys and values, read in turn. -/
def readEntries (read : Linked → StateT Nat (Except Error) Value) :
    List (Value × Value) → List (Linked × Linked) →
      StateT Nat (Except Error) (List (Value × Value))
  | done, [] => pure done.reverse
  | done, (key, value) :: rest => do
    let key ← read key
    addEntry done key
    let value ← read value
    readEntries read ((key, value) :: done) rest

/-- The node that counts in the place of a node: for an alias, the one that it refers to. -/
def standIn (node? : Nat → Option Linked) : Linked → StateT Nat (Except Error) Linked
  | .alias number => do
    followAlias
    match node? number with
    | some found => pure found
    | none => throw .unknownAlias
  | node => pure node

/-- The value of a node in which collections may still be nested `depth` deep. -/
def valueOf (node? : Nat → Option Linked) :
    (depth : Nat) → Linked → StateT Nat (Except Error) Value
  | 0, node => do
    match (← standIn node? node) with
    | .alias _ => throw .unknownAlias
    | .scalar tag? text plain => scalarValue tag? text plain
    | _ => throw .tooDeep
  | depth + 1, node => do
    match (← standIn node? node) with
    | .alias _ => throw .unknownAlias
    | .scalar tag? text plain => scalarValue tag? text plain
    | .sequence tag? items => do
      let items ← items.mapM fun item => valueOf node? depth item
      pure (withTag tag? (.sequence items))
    | .mapping tag? entries => do
      let entries ← readEntries (fun part => valueOf node? depth part) [] entries
      pure (withTag tag? (.mapping entries))

/-- How deep collections may be nested. -/
def maxDepth : Nat := 128

/-- How often aliases may be followed, for each part of the text. -/
def aliasFactor : Nat := 100

/-- **The value of a text**, null if there is nothing in it. -/
def Value.read (text : String) : Except Error Value := do
  let tokens ← tokens text.toList
  match (← Node.ofTokens tokens) with
  | none => .ok .null
  | some node =>
    let (root, anchors) ← (link node).run {}
    let (value, _) ← (valueOf anchors.node? maxDepth root).run (anchors.parts * aliasFactor)
    .ok value

end Gamebook.Yaml
