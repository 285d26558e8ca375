import ActivityForge.CommandLine.Perform

/-!
# What a command looks at

A command is performed on a workspace that holds the files and directories it looks at.  Which
these are depends on what is in them: `watchedPaths` gives the paths as far as they are known from
the workspace so far, `sites` the places along a path, and `changes` what has to be done to turn
one workspace into another.
-/

namespace ActivityForge.CommandLine

/-- The paths that a command looks at once its settings are known. -/
def pathsUnder (w : Workspace) (s : Settings) : Command → List String
  | .generate overrides =>
    let s := overrides.apply s
    let artifacts := match (Generation.plan Generation.activities w s).result with
      | .ok (_, artifacts) => artifacts
      | .error _ => []
    s.input :: s.output :: artifacts.map fun a => Path.join s.output a.path
  | .validate input | .inspect input _ => [input.getD s.input]
  | .init _ => []

/-- The paths that the program looks at for its arguments. -/
def watchedPaths (w : Workspace) (args : List String) : List String :=
  match Request.ofArguments? args with
  | some (.perform settingsPath command) =>
    settingsPath :: match loadSettings w settingsPath with
      | .ok s => pathsUnder w s command
      | .error _ => []
  | _ => []

/-- The places that a path leads past, from a directory on. -/
def sitesFrom (l : Location) : List String → List Location
  | [] => []
  | name :: names =>
    if name = ".." then sitesFrom l.dropLast names
    else (l ++ [name]) :: sitesFrom (l ++ [name]) names

/-- The places that a path leads past. -/
def sites (here : Location) (path : String) : List Location :=
  let steps := Path.steps path
  sitesFrom (if steps.fromRoot then [] else here) (steps.way ++ steps.last.toList)

/-- The entries of a workspace that another one has not, in their order. -/
def changes (before after : Workspace) : List (Location × Workspace.Entry) :=
  after.entries.filter fun (l, e) => !(before.get? l).any e.agrees

end ActivityForge.CommandLine
