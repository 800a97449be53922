import Gamebook.Yaml.Tokens

/-!
# Nodes

The tree that the tokens of a document form.  A node is a text, a list or a mapping, possibly with a
name that aliases refer to and with a tag, or it is an alias.  A node that is left out, like a value
behind a colon at the end of a line, is an empty plain text.

The functions of this file read one phrase each and give the tokens behind it.  Each call but one at
most takes a token away, which bounds the depth of the calls by the number of tokens.
-/

namespace Gamebook.Yaml

/-- A node as it is written. -/
inductive Node where
  | alias (name : String)
  | scalar (anchor? : Option String) (tag? : Option TagName) (text : String) (plain : Bool)
  | sequence (anchor? : Option String) (tag? : Option TagName) (items : List Node)
  | mapping (anchor? : Option String) (tag? : Option TagName) (entries : List (Node × Node))
  deriving Repr, Inhabited

namespace Node

/-- The node that is left out. -/
def missing : Node := .scalar none none "" true

/-! ### Tags -/

/-- The handles of a document with the beginnings of tag names that they stand for. -/
abbrev Handles := List (String × TagName)

/-- The handles that need no directive. -/
def defaultHandles : Handles :=
  [("!", .ofChars ['!']), ("!!", .ofChars "tag:yaml.org,2002:".toList)]

/-- The full name of a tag. -/
def tagName (handles : Handles) (handle : String) (suffix : TagName) : Except Error TagName :=
  if handle.isEmpty then .ok suffix
  else
    match handles.find? fun entry => entry.1 == handle with
    | some (_, stem) => .ok (stem ++ suffix)
    | none => .error .badTag

/-- Read the anchor and the tag in front of a node, at most one of each. -/
def readProperties (handles : Handles) :
    List Token → Except Error (Option String × Option TagName × List Token)
  | .anchor name :: .tag handle suffix :: rest => do
    .ok (some name, some (← tagName handles handle suffix), rest)
  | .tag handle suffix :: .anchor name :: rest => do
    .ok (some name, some (← tagName handles handle suffix), rest)
  | .anchor name :: rest => .ok (some name, none, rest)
  | .tag handle suffix :: rest => do .ok (none, some (← tagName handles handle suffix), rest)
  | rest => .ok (none, none, rest)

/-! ### Phrases -/

/-- Where a node stands: outside of brackets, there possibly as the value of a mapping, whose list
entries need not be indented, or within brackets. -/
inductive Position where
  | block
  | blockValue
  | flow
  deriving DecidableEq

/-- The next token is not one of `stops`. -/
def goesOn (stops : List Token) (tokens : List Token) : Bool :=
  tokens.head?.any fun token => !stops.contains token

/-- The tokens after which a key or a value of a block mapping is left out. -/
def mappingStops : List Token := [.key, .value, .blockEnd]

/-- The node that has only properties and is otherwise left out. -/
def readBare (anchor? : Option String) (tag? : Option TagName) (rest : List Token) :
    Except Error (Node × List Token) :=
  if anchor?.isSome || tag?.isSome then .ok (.scalar anchor? tag? "" true, rest)
  else .error .unexpectedToken

mutual

/-- Read a node. -/
def read (handles : Handles) (position : Position) :
    (fuel : Nat) → List Token → Except Error (Node × List Token)
  | 0, _ => .error .unexpectedToken
  | _ + 1, .alias name :: rest => .ok (.alias name, rest)
  | fuel + 1, tokens => do
    let (anchor?, tag?, rest) ← readProperties handles tokens
    match rest with
    | .blockEntry :: _ =>
      if position = .blockValue then
        let (items, rest) ← readIndentless handles fuel rest
        .ok (.sequence anchor? tag? items, rest)
      else readBare anchor? tag? rest
    | .scalar text plain :: rest => .ok (.scalar anchor? tag? text plain, rest)
    | .flowSequenceStart :: rest =>
      let (items, rest) ← readFlowItems handles true fuel rest
      .ok (.sequence anchor? tag? items, rest)
    | .flowMappingStart :: rest =>
      let (entries, rest) ← readFlowEntries handles true fuel rest
      .ok (.mapping anchor? tag? entries, rest)
    | .blockSequenceStart :: after =>
      if position = .flow then readBare anchor? tag? rest
      else
        let (items, rest) ← readBlockItems handles fuel after
        .ok (.sequence anchor? tag? items, rest)
    | .blockMappingStart :: after =>
      if position = .flow then readBare anchor? tag? rest
      else
        let (entries, rest) ← readBlockEntries handles fuel after
        .ok (.mapping anchor? tag? entries, rest)
    | _ => readBare anchor? tag? rest

/-- Read a node, or nothing before one of the tokens `stops`. -/
def readUnless (handles : Handles) (position : Position) (stops : List Token) :
    (fuel : Nat) → List Token → Except Error (Node × List Token)
  | 0, _ => .error .unexpectedToken
  | fuel + 1, tokens =>
    if goesOn stops tokens then read handles position fuel tokens else .ok (missing, tokens)

/-- Read the entries of an indented list and its end. -/
def readBlockItems (handles : Handles) :
    (fuel : Nat) → List Token → Except Error (List Node × List Token)
  | fuel + 1, .blockEntry :: rest => do
    let (item, rest) ← readUnless handles .block [.blockEntry, .blockEnd] fuel rest
    let (items, rest) ← readBlockItems handles fuel rest
    .ok (item :: items, rest)
  | _, .blockEnd :: rest => .ok ([], rest)
  | _, _ => .error .unexpectedToken

/-- Read the entries of a list that is not indented. -/
def readIndentless (handles : Handles) :
    (fuel : Nat) → List Token → Except Error (List Node × List Token)
  | fuel + 1, .blockEntry :: rest => do
    let (item, rest) ← readUnless handles .block (.blockEntry :: mappingStops) fuel rest
    let (items, rest) ← readIndentless handles fuel rest
    .ok (item :: items, rest)
  | _, tokens => .ok ([], tokens)

/-- Read the entries of an indented mapping and its end. -/
def readBlockEntries (handles : Handles) :
    (fuel : Nat) → List Token → Except Error (List (Node × Node) × List Token)
  | fuel + 1, .key :: rest => do
    let (key, rest) ← readUnless handles .blockValue mappingStops fuel rest
    let (value, rest) ←
      match rest with
      | .value :: rest => readUnless handles .blockValue mappingStops fuel rest
      | rest => .ok (missing, rest)
    let (entries, rest) ← readBlockEntries handles fuel rest
    .ok ((key, value) :: entries, rest)
  | _, .blockEnd :: rest => .ok ([], rest)
  | _, _ => .error .unexpectedToken

/-- Read the items of a list in brackets and the closing bracket; commas stand between them. -/
def readFlowItems (handles : Handles) :
    (first : Bool) → (fuel : Nat) → List Token → Except Error (List Node × List Token)
  | _, _, .flowSequenceEnd :: rest => .ok ([], rest)
  | _, 0, _ => .error .unexpectedToken
  | first, fuel + 1, tokens => do
    let tokens ←
      match first, tokens with
      | true, tokens => .ok tokens
      | false, .flowEntry :: rest => .ok rest
      | false, _ => .error .unexpectedToken
    match tokens with
    | .flowSequenceEnd :: rest => .ok ([], rest)
    | .key :: rest =>
      let (item, rest) ← readFlowPair handles fuel rest
      let (items, rest) ← readFlowItems handles false fuel rest
      .ok (item :: items, rest)
    | tokens =>
      let (item, rest) ← read handles .flow fuel tokens
      let (items, rest) ← readFlowItems handles false fuel rest
      .ok (item :: items, rest)

/-- Read the one pair of a mapping without braces in a list in brackets.  Where the key is left out,
the token that shows it is passed over. -/
def readFlowPair (handles : Handles) :
    (fuel : Nat) → List Token → Except Error (Node × List Token)
  | 0, _ => .error .unexpectedToken
  | fuel + 1, tokens => do
    let (key, rest) ←
      if goesOn [.value, .flowEntry, .flowSequenceEnd] tokens then read handles .flow fuel tokens
      else .ok (missing, tokens.drop 1)
    let (value, rest) ←
      match rest with
      | .value :: rest => readUnless handles .flow [.flowEntry, .flowSequenceEnd] fuel rest
      | rest => .ok (missing, rest)
    .ok (.mapping none none [(key, value)], rest)

/-- Read the entries of a mapping in braces and the closing brace; commas stand between them. -/
def readFlowEntries (handles : Handles) :
    (first : Bool) → (fuel : Nat) → List Token → Except Error (List (Node × Node) × List Token)
  | _, _, .flowMappingEnd :: rest => .ok ([], rest)
  | _, 0, _ => .error .unexpectedToken
  | first, fuel + 1, tokens => do
    let tokens ←
      match first, tokens with
      | true, tokens => .ok tokens
      | false, .flowEntry :: rest => .ok rest
      | false, _ => .error .unexpectedToken
    match tokens with
    | .flowMappingEnd :: rest => .ok ([], rest)
    | .key :: rest =>
      let (key, rest) ← readUnless handles .flow [.value, .flowEntry, .flowMappingEnd] fuel rest
      let (value, rest) ←
        match rest with
        | .value :: rest => readUnless handles .flow [.flowEntry, .flowMappingEnd] fuel rest
        | rest => .ok (missing, rest)
      let (entries, rest) ← readFlowEntries handles false fuel rest
      .ok ((key, value) :: entries, rest)
    | tokens =>
      let (key, rest) ← read handles .flow fuel tokens
      let (entries, rest) ← readFlowEntries handles false fuel rest
      .ok ((key, missing) :: entries, rest)

end

/-! ### Documents -/

/-- Read the directives in front of a document: the version at most once, each handle at most once. -/
def readDirectives : (versionSeen : Bool) → Handles → List Token → Except Error (Handles × List Token)
  | versionSeen, handles, .versionDirective major minor :: rest =>
    if versionSeen || major != 1 || (minor != 1 && minor != 2) then .error .badDirective
    else readDirectives true handles rest
  | versionSeen, handles, .tagDirective handle stem :: rest =>
    if handles.any fun entry => entry.1 == handle then .error .badDirective
    else readDirectives versionSeen (handles ++ [(handle, stem)]) rest
  | _, handles, rest => .ok (handles ++ defaultHandles, rest)

/-- Read the only document of a text; none if the text holds no document. -/
def ofTokens (tokens : List Token) : Except Error (Option Node) := do
  let fuel := 4 * tokens.length + 4
  match tokens with
  | [.textEnd] => .ok none
  | _ =>
    let (node, rest) ←
      match tokens with
      | .versionDirective .. :: _ | .tagDirective .. :: _ | .documentStart :: _ => do
        let (handles, rest) ← readDirectives false [] tokens
        match rest with
        | .documentStart :: rest =>
          match rest with
          | .versionDirective .. :: _ | .tagDirective .. :: _ | .documentStart :: _
          | .documentEnd :: _ | .textEnd :: _ => .ok (missing, rest)
          | _ => read handles .block fuel rest
        | _ => .error .unexpectedToken
      | _ => read defaultHandles .block fuel tokens
    match rest.dropWhile (· == .documentEnd) with
    | [.textEnd] => .ok (some node)
    | _ => .error .severalDocuments

end Node

end Gamebook.Yaml
