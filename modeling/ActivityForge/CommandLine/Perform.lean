import ActivityForge.CommandLine.Arguments
import ActivityForge.CommandLine.Summary
import ActivityForge.Generation
import ActivityForge.Settings.Load
import ActivityForge.Yaml.Printer

/-!
# Commands

What the program does for its arguments: `perform` gives the exit code, what is written to the
two outputs, and the workspace as it is left.
-/

namespace ActivityForge.CommandLine

/-! ## Failures -/

/-- Why a command fails, with the causes, outermost first. -/
structure Failure where
  message : String
  causes : List String
deriving DecidableEq, Repr

/-- A cause on lines of its own; further lines of its text stand under the first. -/
def causeText (mark margin : String) (cause : String) : String :=
  "\n" ++ mark ++ ("\n" ++ margin).intercalate ((Text.splitAt '\n' cause.toList).map String.ofList)

/-- Causes are numbered if there are several. -/
def Failure.text (f : Failure) : String :=
  "Error: " ++ f.message ++ (match f.causes with
    | [] => ""
    | [cause] => "\n\nCaused by:" ++ causeText "    " "    " cause
    | causes => "\n\nCaused by:" ++ String.join (causes.mapIdx fun i cause =>
        causeText ("    " ++ toString i ++ ": ") "       " cause)) ++ "\n"

/-! ## The commands -/

def loadSettings (w : Workspace) (path : String) : Except Failure Settings :=
  (Settings.load w path).mapError fun e => ⟨e.message, []⟩

/-- The blueprint of the input, which stands in the settings unless it is given. -/
def loadBlueprint (w : Workspace) (s : Settings) (input : Option String) :
    Except Failure Blueprint :=
  let path := input.getD s.input
  (Generation.load w path s.options).result.mapError fun e => ⟨"failed to load " ++ path, e.messages⟩

/-- Lines, each with a line feed. -/
def linesText (lines : List String) : String := String.join (lines.map (· ++ "\n"))

/-- What is said about a valid document. -/
def validity (b : Blueprint) : String :=
  linesText [
    "Valid OpenAPI spec: " ++ b.info.title,
    "  Version: " ++ b.info.version,
    "  Operations: " ++ toString b.activities.length,
    "  Request objects: " ++ toString (b.activities.filter Activity.usesRequest).length,
    "  Models: " ++ toString b.models.length,
    "Validation successful."]

def validate (w : Workspace) (settingsPath : String) (input : Option String) :
    Except Failure String := do
  let s ← loadSettings w settingsPath
  return validity (← loadBlueprint w s input)

def summaryText (format : SummaryFormat) (b : Blueprint) : String :=
  match format with
  | .yaml => Yaml.print (summary b)
  | .json => (Json.Value.object (summary b)).pretty ++ "\n"

def inspect (w : Workspace) (settingsPath : String) (input : Option String)
    (format : SummaryFormat) : Except Failure String := do
  let s ← loadSettings w settingsPath
  return summaryText format (← loadBlueprint w s input)

/-- Writes the first settings file; an existing one only if that is forced. -/
def init (w : Workspace) (settingsPath : String) (force : Bool) : Except Failure Workspace :=
  if w.contains settingsPath && !force then
    .error ⟨settingsPath ++ " already exists. Use --force to overwrite.", []⟩
  else
    (w.write settingsPath Settings.initialText).mapError fun f =>
      ⟨"failed to write " ++ settingsPath, [f.message]⟩

/-- What is said before a run. -/
def announcement (s : Settings) : String :=
  "Generating " ++ s.contractName ++ " from " ++ s.input ++ " → " ++ s.output ++ "\n"

/-- What is said after a run. -/
def reportText (s : Settings) (r : Generation.Report) : String :=
  linesText (r.written.map ("  wrote " ++ ·)
    ++ ["Generated " ++ toString r.written.length ++ " files (" ++ toString r.activities
        ++ " operations, " ++ toString r.models ++ " models) in " ++ s.output,
      "",
      "The generated directory should not be edited manually; changes will be overwritten."])

/-! ## Outcomes -/

/-- What comes of a command. -/
structure Outcome where
  code : Nat
  output : String
  /-- What is said to the user beside the output. -/
  messages : String
  /-- The workspace as the command leaves it. -/
  workspace : Workspace

/-- The outcome of a command that leaves the workspace as it is. -/
def outcomeOf (w : Workspace) (result : Except Failure (String × String)) : Outcome :=
  match result with
  | .ok (output, messages) => ⟨0, output, messages, w⟩
  | .error f => ⟨1, "", f.text, w⟩

def generate (w : Workspace) (settingsPath : String) (overrides : Overrides) : Outcome :=
  match loadSettings w settingsPath with
  | .error f => outcomeOf w (.error f)
  | .ok loaded =>
    let s := overrides.apply loaded
    let (left, ran) := Generation.run w s
    match ran.result with
    | .ok r => ⟨0, "", announcement s ++ reportText s r, left⟩
    | .error e => ⟨1, "", announcement s ++ Failure.text ⟨"generation failed", e.messages⟩, left⟩

def versionText : String := "oact 0.1.0\n"

def performCommand (w : Workspace) (settingsPath : String) : Command → Outcome
  | .generate overrides => generate w settingsPath overrides
  | .validate input => outcomeOf w ((validate w settingsPath input).map fun said => ("", said))
  | .inspect input format =>
    outcomeOf w ((inspect w settingsPath input format).map fun text => (text, ""))
  | .init force =>
    match init w settingsPath force with
    | .ok left => ⟨0, "", "Created " ++ settingsPath ++ "\n", left⟩
    | .error f => outcomeOf w (.error f)

/-- What the program does for its arguments; wrong use has a code of its own. -/
def perform (w : Workspace) (args : List String) : Outcome :=
  match Request.ofArguments? args with
  | none => ⟨2, "", "", w⟩
  | some .version => ⟨0, versionText, "", w⟩
  | some (.perform settingsPath command) => performCommand w settingsPath command

end ActivityForge.CommandLine
