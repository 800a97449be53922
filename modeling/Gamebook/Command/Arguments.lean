import Gamebook.Text.ControlSequence

/-!
# Arguments

The first argument says what to do with the story, and the options behind it where the story and its
settings are and how the answer is given.  An option with a value has it behind an equals sign or as the
next argument; a value that is given apart cannot start with a hyphen, unless it is nothing but one.

An option may be given once.  That it is given again is noticed when the next argument that is in order
has been read, so that an argument out of order is what is complained about if there is one.

A complaint shows a part of an argument without the control sequences in it.
-/

namespace Gamebook.Command

/-! ### Requests -/

/-- What can be done with a story. -/
inductive Action where
  /-- Report on the story. -/
  | check
  /-- Report on the story and compile it. -/
  | build
  /-- List the loops of the story. -/
  | loops
  deriving DecidableEq, Repr

/-- The action of that name. -/
def Action.ofName? : String → Option Action
  | "check" => some .check
  | "build" => some .build
  | "loops" => some .loops
  | _ => none

/-- What the options say. -/
structure Options where
  /-- The directory of the documents. -/
  story? : Option String := none
  /-- The path of the settings file. -/
  config? : Option String := none
  /-- The path of the compiled story. -/
  out? : Option String := none
  /-- The answer is a JSON value. -/
  json : Bool := false
  /-- The run is logged. -/
  debug : Bool := false
  deriving DecidableEq, Repr

/-- What the arguments ask for. -/
inductive Request where
  /-- Something is to be done with a story. -/
  | act (action : Action) (options : Options)
  /-- How the program is used. -/
  | help
  /-- Which version of the program it is. -/
  | version
  /-- There are no arguments. -/
  | nothing
  deriving DecidableEq, Repr

/-! ### Errors -/

/-- What is wrong with the arguments. -/
inductive UsageError where
  | unexpectedArgument (argument : String)
  | unknownAction (name : String)
  | missingValue (option : String)
  | repeated (option : String)
  | uselessValue (value option : String)
  deriving DecidableEq, Repr

/-- What is shown of a text, in single quotes. -/
def inQuotes (text : String) : String := "\x27" ++ Text.shown text ++ "\x27"

/-- What is said of arguments that are wrong. -/
def UsageError.message : UsageError → String
  | unexpectedArgument argument => "unexpected argument " ++ inQuotes argument ++ " found"
  | unknownAction name => "unrecognized subcommand " ++ inQuotes name
  | missingValue option =>
    "a value is required for " ++ inQuotes option ++ " but none was supplied"
  | repeated option => "the argument " ++ inQuotes option ++ " cannot be used multiple times"
  | uselessValue value option =>
    "unexpected value " ++ inQuotes value ++ " for " ++ inQuotes option
      ++ " found; no more were expected"

/-! ### Options -/

/-- An option that has a value. -/
inductive ValueOption where
  | story
  | config
  | out
  deriving DecidableEq, Repr

namespace ValueOption

/-- The option with what its value is. -/
def shown : ValueOption → String
  | story => "--story <STORY>"
  | config => "--config <CONFIG>"
  | out => "--out <OUT>"

/-- The value that was given. -/
def get? (options : Options) : ValueOption → Option String
  | story => options.story?
  | config => options.config?
  | out => options.out?

/-- The options with a value given. -/
def set (options : Options) (value : String) : ValueOption → Options
  | story => { options with story? := some value }
  | config => { options with config? := some value }
  | out => { options with out? := some value }

end ValueOption

/-- An option without a value. -/
inductive Switch where
  | json
  | debug
  | help
  deriving DecidableEq, Repr

/-- The name of an option without a value. -/
def Switch.shown : Switch → String
  | json => "--json"
  | debug => "--debug"
  | help => "--help"

/-- The option of that name among those of an action. -/
def findOption? (action : Action) : (name : String) → Option (ValueOption ⊕ Switch)
  | "story" => some (.inl .story)
  | "config" => some (.inl .config)
  | "out" => if action = .build then some (.inl .out) else none
  | "json" => some (.inr .json)
  | "debug" => some (.inr .debug)
  | "help" => some (.inr .help)
  | _ => none

/-! ### Reading options -/

/-- What has been read of the options. -/
structure Progress where
  /-- The options that are settled. -/
  options : Options := {}
  /-- The last option with a value, and the value once it has been read. -/
  pending? : Option (ValueOption × Option String) := none
  /-- Nothing more is an option. -/
  closed : Bool := false
  deriving DecidableEq, Repr

/-- Why the reading of options stops. -/
inductive Stop where
  /-- The arguments are wrong. -/
  | wrong (error : UsageError)
  /-- Help is asked for. -/
  | help
  deriving DecidableEq, Repr

/-- The options with a value for one that has none yet. -/
def give (options : Options) (option : ValueOption) (value : String) : Except Stop Options :=
  match option.get? options with
  | some _ => .error (.wrong (.repeated option.shown))
  | none => .ok (option.set options value)

/-- The options with the pending one settled. -/
def Progress.settle (progress : Progress) : Except Stop Options :=
  match progress.pending? with
  | none => .ok progress.options
  | some (option, none) => .error (.wrong (.missingValue option.shown))
  | some (option, some value) => give progress.options option value

/-- The progress after an option without a value. -/
def Progress.turnOn (progress : Progress) (switch : Switch) : Except Stop Progress := do
  let options ← progress.settle
  match switch with
  | .help => .error .help
  | .json =>
    if options.json then .error (.wrong (.repeated switch.shown))
    else return { options := { options with json := true } }
  | .debug =>
    if options.debug then .error (.wrong (.repeated switch.shown))
    else return { options := { options with debug := true } }

/-- The part of an argument in front of the first equals sign, and the part behind it. -/
def splitValue (argument : List Char) : String × Option String :=
  let name := String.ofList (argument.takeWhile (· ≠ '='))
  match argument.dropWhile (· ≠ '=') with
  | [] => (name, none)
  | _ :: value => (name, some (String.ofList value))

/-- The progress after an argument that starts with two hyphens, given what stands behind them. -/
def Progress.readLong (action : Action) (progress : Progress) (argument : List Char) :
    Except Stop Progress :=
  let (name, value?) := splitValue argument
  match findOption? action name, value? with
  | none, _ => .error (.wrong (.unexpectedArgument ("--" ++ name)))
  | some (.inr switch), none => progress.turnOn switch
  | some (.inr switch), some value => .error (.wrong (.uselessValue value switch.shown))
  | some (.inl option), some value => do
    let options ← progress.settle
    return { options := ← give options option value }
  | some (.inl option), none => do
    let options ← progress.settle
    return { options, pending? := some (option, none) }

/-- The progress after an argument. -/
def Progress.read (action : Action) (progress : Progress) (argument : String) :
    Except Stop Progress :=
  let unexpected := Except.error (.wrong (.unexpectedArgument argument))
  if progress.closed then unexpected
  else
    match argument.toList with
    | ['-', '-'] => .ok { progress with closed := true }
    | '-' :: '-' :: rest => progress.readLong action rest
    | '-' :: 'h' :: _ => progress.turnOn .help
    | '-' :: letter :: _ =>
      .error (.wrong (.unexpectedArgument (String.ofList ['-', letter])))
    | _ =>
      match progress.pending? with
      | some (option, none) => .ok { progress with pending? := some (option, some argument) }
      | _ => unexpected

/-- The options that the arguments behind an action give. -/
def readOptions (action : Action) (arguments : List String) : Except Stop Options := do
  let progress ← arguments.foldlM (Progress.read action) {}
  progress.settle

/-! ### Reading arguments -/

/-- The request that arguments behind an action make. -/
def actionRequest (action : Action) (arguments : List String) : Except UsageError Request :=
  match readOptions action arguments with
  | .ok options => .ok (.act action options)
  | .error .help => .ok .help
  | .error (.wrong error) => .error error

/-- The request that arguments without an action make: the name and the value of the first one. -/
def generalRequest (name : String) (value? : Option String) : Except UsageError Request :=
  match name, value? with
  | "help", none => .ok .help
  | "version", none => .ok .version
  | "help", some value => .error (.uselessValue value "--help")
  | "version", some value => .error (.uselessValue value "--version")
  | _, _ => .error (.unexpectedArgument ("--" ++ name))

/-- The request for help on an action or on the help, if one is named; neither has actions of its
own. -/
def helpRequest : (names : List String) → Except UsageError Request
  | [] => .ok .help
  | name :: more =>
    if name = "help" ∨ (Action.ofName? name).isSome then
      match more with
      | [] => .ok .help
      | inner :: _ => .error (.unknownAction inner)
    else .error (.unknownAction name)

/-- The request that arguments behind two lone hyphens make, where no action can be named any more. -/
def closedRequest : (arguments : List String) → Except UsageError Request
  | [] => .ok .nothing
  | first :: _ =>
    if first = "help" ∨ (Action.ofName? first).isSome then .error (.unexpectedArgument first)
    else .error (.unknownAction first)

/-- The request that the arguments make. -/
def Request.ofArguments : (arguments : List String) → Except UsageError Request
  | [] => .ok .nothing
  | first :: rest =>
    match Action.ofName? first with
    | some action => actionRequest action rest
    | none =>
      match first.toList with
      | ['h', 'e', 'l', 'p'] => helpRequest rest
      | ['-', '-'] => closedRequest rest
      | '-' :: '-' :: name =>
        let (name, value?) := splitValue name
        generalRequest name value?
      | '-' :: 'h' :: _ => .ok .help
      | '-' :: 'V' :: _ => .ok .version
      | '-' :: letter :: _ => .error (.unexpectedArgument (String.ofList ['-', letter]))
      | _ => .error (.unknownAction first)

end Gamebook.Command
