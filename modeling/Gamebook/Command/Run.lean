import Gamebook.Check.Encoding
import Gamebook.Command.Arguments
import Gamebook.Command.Layout
import Gamebook.Command.Loops
import Gamebook.Document.Directory
import Gamebook.Export.Write
import Gamebook.Json.Printer
import Gamebook.Json.Sorted
import Gamebook.Settings.Load
import Gamebook.Story.Ingest

/-!
# Running the program

What the program does is a function of its arguments and the files it sees: it gives back the files as
they are then, what it says, and how it ends.  Every action loads the settings, then the story; checking
and building make a report, and building writes the compiled story if the report accepts it.

Only building changes files, and only after everything else that can fail has not failed.  What may still
fail is the writing, and where it does is up to the medium that the files are kept on.  The program ends
with one when the story is rejected or there is none, and with two when something could not be done.
-/

namespace Gamebook.Command

open Gamebook.Check Gamebook.Document Gamebook.FileTree Gamebook.Json Gamebook.Story

/-! ### What is said -/

/-- What the program says and how it ends. -/
structure Answer where
  /-- What it says. -/
  output : String := ""
  /-- What it says about errors. -/
  errors : String := ""
  /-- How it ends. -/
  exitCode : Nat := 0
  deriving DecidableEq, Repr

/-- Why an action cannot be done. -/
inductive Trouble where
  /-- The settings are refused. -/
  | settings (refusal : Settings.Refusal)
  /-- The documents cannot be read. -/
  | documents (error : DirectoryError)
  /-- There are no documents. -/
  | noDocuments (root : String)
  /-- A severity is set for a check that there is not. -/
  | unknownCheck (error : UnknownCheck)
  /-- The compiled story cannot be written. -/
  | output (error : Export.WriteError)
  deriving DecidableEq, Repr

namespace Trouble

/-- What is said of an action that cannot be done. -/
def message : Trouble → String
  | settings refusal => refusal.message
  | documents error => error.message
  | noDocuments root => "could not locate any story parts under " ++ root
  | unknownCheck error => error.message
  | output error => error.message

/-- How the program ends when an action cannot be done. -/
def exitCode : Trouble → Nat
  | noDocuments _ => 1
  | _ => 2

end Trouble

/-- The line on an error. -/
def errorLine (message : String) : String := "error: " ++ message ++ "\n"

/-- The answer when an action cannot be done. -/
def Answer.ofTrouble (trouble : Trouble) : Answer where
  errors := errorLine trouble.message
  exitCode := trouble.exitCode

/-- The answer whose output is a JSON value with the members in order. -/
def jsonOutput (members : List (String × Value)) : String :=
  Json.render (Value.sorted (.object members)) ++ "\n"

/-! ### Stages -/

/-- A story that is loaded. -/
structure Loaded where
  /-- The settings. -/
  settings : Settings
  /-- The directory of the documents. -/
  root : String
  /-- The story. -/
  graph : Graph

/-- The story under a directory, if there is one. -/
def loadGraph (tree : FileTree) (settings : Settings) (root : String) : Except Trouble Graph :=
  match sourcesIn tree root with
  | .error (.missingRoot _) => .error (.noDocuments root)
  | .error error => .error (.documents error)
  | .ok [] => .error (.noDocuments root)
  | .ok sources => .ok (.ofSources settings.revisitDefault sources)

/-- The settings and the story. -/
def load (tree : FileTree) (options : Options) : Except Trouble Loaded := do
  let settings ← (Settings.load tree options.config?).mapError .settings
  let root := options.story?.getD settings.root
  let graph ← loadGraph tree settings root
  return ⟨settings, root, graph⟩

/-- The report on a story that is loaded. -/
def reportOn (tree : FileTree) (loaded : Loaded) : Except Trouble Report := do
  let rules ← (loaded.settings.rules tree).mapError .settings
  let context : Context := { graph := loaded.graph, rules, deviation := loaded.settings.deviation }
  (checkStory context loaded.settings.severities).mapError .unknownCheck

/-- The settings, the story and the report on it. -/
def loadReport (tree : FileTree) (options : Options) : Except Trouble (Loaded × Report) := do
  let loaded ← load tree options
  return (loaded, ← reportOn tree loaded)

/-- The members of the value of a report. -/
def reportMembers (loaded : Loaded) (report : Report) : List (String × Value) :=
  [("schema", .count 1), ("checkKind", .string report.checkKind), ("result", .string report.result),
    ("summary", report.summary.toJson), ("checks", .array (report.checks.map Outcome.toJson)),
    ("storyRoot", .string loaded.root)]

/-- How the program ends after a report. -/
def reportExit (report : Report) : Nat := if report.accepted then 0 else 1

/-! ### Actions -/

/-- Report on a story. -/
def check (tree : FileTree) (options : Options) : Answer :=
  match loadReport tree options with
  | .error trouble => .ofTrouble trouble
  | .ok (loaded, report) =>
    { output :=
        if options.json then jsonOutput (reportMembers loaded report)
        else asLines (reportLines report)
      exitCode := reportExit report }

/-- The value of what was written. -/
def writtenValue (written : Export.Written) : Value :=
  .object [("path", .string written.path), ("sha256", .string written.digest),
    ("bytes", .count written.bytes)]

/-- The line on what was written. -/
def writtenLine (written : Export.Written) : String :=
  "[story-build] OK wrote " ++ written.path ++ " (sha256=" ++ written.digest ++ ", bytes="
    ++ Numeral.text written.bytes ++ ")"

/-- The line on a story that is not compiled. -/
def rejectedLine : String := "[story-build] FAIL could not generate story, fix and rerun"

/-- The answer on a report and what came of compiling the story. -/
def buildAnswer (options : Options) (loaded : Loaded) (report : Report) (output : Value)
    (line : String) : Answer where
  output :=
    if options.json then jsonOutput (reportMembers loaded report ++ [("output", output)])
    else asLines (reportLines report ++ [line])
  exitCode := reportExit report

/-- Report on a story and compile it, with the files on a medium. -/
def build (medium : Medium) (tree : FileTree) (stamp : String) (options : Options) :
    FileTree × Answer :=
  match loadReport tree options with
  | .error trouble => (tree, .ofTrouble trouble)
  | .ok (loaded, report) =>
    if report.accepted then
      let path := options.out?.getD loaded.settings.output
      match Export.writeDocumentOn medium tree stamp path loaded.graph with
      | (changed, .error error) => (changed, .ofTrouble (.output error))
      | (changed, .ok written) =>
        (changed, buildAnswer options loaded report (writtenValue written) (writtenLine written))
    else (tree, buildAnswer options loaded report .null rejectedLine)

/-- List the loops of a story. -/
def loops (tree : FileTree) (options : Options) : Answer :=
  match load tree options with
  | .error trouble => .ofTrouble trouble
  | .ok loaded =>
    let rows := loopRows loaded.graph
    { output :=
        if options.json then
          jsonOutput (loopsMembers rows ++ [("storyRoot", .string loaded.root)])
        else asLines (loopLines rows) }

/-- Do something with a story, with the files on a medium. -/
def act (medium : Medium) (tree : FileTree) (stamp : String) (options : Options) :
    Action → FileTree × Answer
  | .check => (tree, check tree options)
  | .build => build medium tree stamp options
  | .loops => (tree, loops tree options)

/-! ### The program -/

/-- The version of the program. -/
def versionText : String := "branchtale 0.1.0\n"

/-- How the program is used. -/
def helpText : String :=
  asLines
    ["Branchtale: structural validation and compilation for branching stories", "",
     "Usage: branchtale <COMMAND>", "",
     "Commands:",
     "  check  Run every story check and print the report",
     "  build  Run every story check and write the story document when accepted",
     "  loops  List canonical loops and whether an ending can be reached from each"]

/-- What the program does with its arguments, with the files on a medium. -/
def runOn (medium : Medium) (tree : FileTree) (stamp : String) (arguments : List String) :
    FileTree × Answer :=
  match Request.ofArguments arguments with
  | .error error => (tree, { errors := errorLine error.message, exitCode := 2 })
  | .ok (.act action options) => act medium tree stamp options action
  | .ok .help => (tree, { output := helpText })
  | .ok .version => (tree, { output := versionText })
  | .ok .nothing => (tree, { errors := helpText, exitCode := 2 })

/-- What the program does with its arguments. -/
def run (tree : FileTree) (stamp : String) (arguments : List String) : FileTree × Answer :=
  runOn .sound tree stamp arguments

end Gamebook.Command
