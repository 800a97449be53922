import Gamebook.Command.Run

/-!
# What a run looks at

A run looks at few of the files there are: at its settings, at the directory of the story, at a list of
colours, and at the way to its output.  The settings come first, because the other paths may be set in
them.
-/

namespace Gamebook.Command

/-- How much of what a path leads to is looked at. -/
inductive Sight where
  /-- A file, or that there is a directory. -/
  | shallow
  /-- All documents in a directory, at any depth. -/
  | deep
  deriving DecidableEq, Repr

/-- The path of the settings of a run. -/
def settingsPath (options : Options) : String := options.config?.getD Settings.usualPath

/-- The other paths that a run looks at when the settings are there to be seen. -/
def pathsInSight (tree : FileTree) (options : Options) : List (Sight × String) :=
  match Settings.load tree options.config? with
  | .error _ => []
  | .ok settings =>
    settings.coloursPath?.toList.map (fun path => (.shallow, path))
      ++ [(.shallow, options.out?.getD settings.output),
        (.deep, options.story?.getD settings.root)]

end Gamebook.Command
