import ActivityForge.Settings
import ActivityForge.Workspace.Basic
import ActivityForge.Yaml.Reader

/-!
# Settings files

Settings are read from a YAML file of the workspace; there need not be one.
-/

namespace ActivityForge.Settings

/-- Why a settings file cannot be used. -/
inductive LoadError
  | unreadable (path : String) (fault : Workspace.Fault)
  | malformed (path : String) (fault : Reading.Fault)
deriving DecidableEq, Repr

def LoadError.message : LoadError → String
  | .unreadable path f => "failed to read config " ++ path ++ ": " ++ f.message
  | .malformed path f => "failed to parse config " ++ path ++ ": " ++ f.text

/-- The settings of a text. -/
def ofYaml (text : String) : Except Reading.Fault Settings := shape.read (Yaml.source text)

/-- The settings in the file at a path, if there is something at that path. -/
def load? (w : Workspace) (path : String) : Except LoadError (Option Settings) :=
  if !w.contains path then .ok none
  else
    match w.read path with
    | .error f => .error (.unreadable path f)
    | .ok text =>
      match ofYaml text with
      | .error f => .error (.malformed path f)
      | .ok s => .ok (some s)

/-- The settings in the file at a path, or the defaults. -/
def load (w : Workspace) (path : String) : Except LoadError Settings :=
  (load? w path).map (·.getD default)

end ActivityForge.Settings
