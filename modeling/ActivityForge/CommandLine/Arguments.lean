import ActivityForge.Dict
import ActivityForge.Settings

/-!
# Command line arguments

`Request.ofArguments?` reads the arguments of the program: options, then a command with options of
its own.  The value of an option stands behind it or behind an equals sign, behind a short option
also directly.  No option may be given twice; only the path of the settings file may be given both
before and behind the command, and then the latter counts.
-/

namespace ActivityForge.CommandLine

/-- How a summary is written. -/
inductive SummaryFormat
  | yaml
  | json
deriving DecidableEq, Repr

/-- What the arguments set in place of the settings file. -/
structure Overrides where
  input : Option String
  output : Option String
  package : Option String
  contractName : Option String
  clientScope : Option String
  modelScope : Option String
  noImplementation : Bool
  noModels : Bool
  lenientRefs : Bool
deriving DecidableEq, Repr

def Overrides.apply (o : Overrides) (s : Settings) : Settings where
  input := o.input.getD s.input
  output := o.output.getD s.output
  package := o.package.getD s.package
  contractName := o.contractName.getD s.contractName
  clientScope := o.clientScope.getD s.clientScope
  modelScope := o.modelScope.getD s.modelScope
  generateImplementation := s.generateImplementation && !o.noImplementation
  generateModels := s.generateModels && !o.noModels
  strictRefs := s.strictRefs && !o.lenientRefs

inductive Command
  | generate (overrides : Overrides)
  | validate (input : Option String)
  | inspect (input : Option String) (format : SummaryFormat)
  | init (force : Bool)
deriving DecidableEq, Repr

inductive Request
  /-- The version of the program is asked for. -/
  | version
  /-- A command with the path of the settings file. -/
  | perform (settingsPath : String) (command : Command)
deriving DecidableEq, Repr

/-! ## Options -/

/-- What stands behind an option. -/
inductive Operand
  /-- Nothing. -/
  | none
  /-- Nothing, and what follows is not looked at. -/
  | final
  /-- A text that may be empty. -/
  | text
  /-- A path, which is not empty. -/
  | path
deriving DecidableEq, Repr

structure OptionForm where
  name : String
  short : Option Char
  operand : Operand

/-- Options that have been read, by their names; those without operand have an empty one. -/
abbrev Given := Dict String

/-- Adds an option that has not been given before. -/
def give (given : Given) (form : OptionForm) (value : String) : Option Given :=
  if given.contains form.name || (form.operand = .path && value.isEmpty) then none
  else some (given.put form.name value)

/-- Whether an argument looks like an option. -/
def isOption (arg : String) : Bool := arg.startsWith "-" && arg ≠ "-"

/-- The option that an argument names, with the operand attached to it. -/
def formOf? (forms : List OptionForm) (arg : List Char) : Option (OptionForm × Option String) :=
  match arg with
  | '-' :: '-' :: word =>
    let name := word.takeWhile (· ≠ '=')
    let attached := match word.dropWhile (· ≠ '=') with
      | [] => none
      | _ :: value => some (String.ofList value)
    (forms.find? fun f => f.name.toList = name).map fun f => (f, attached)
  | '-' :: letter :: rest =>
    let attached := match rest with
      | [] => none
      | '=' :: value => some (String.ofList value)
      | value => some (String.ofList value)
    (forms.find? fun f => f.short = some letter).map fun f => (f, attached)
  | _ => none

/-- Reads options up to the first argument that is none, or that ends them; `pending` is the
option whose operand comes next. -/
def readOptions (forms : List OptionForm) (pending : Option OptionForm) (given : Given) :
    List String → Option (Given × List String)
  | [] => if pending.isSome then none else some (given, [])
  | arg :: rest =>
    match pending with
    | some form =>
      if isOption arg then none
      else (give given form arg).bind (readOptions forms none · rest)
    | none =>
      if !isOption arg || arg = "--" then some (given, arg :: rest)
      else
        match formOf? forms arg.toList with
        | none => none
        | some (form, attached) =>
          match form.operand, attached with
          | .final, none => (give given form "").map (·, [])
          | .final, some _ => if arg.startsWith "--" then none else (give given form "").map (·, [])
          | .none, none => (give given form "").bind (readOptions forms none · rest)
          | .none, some _ => none
          | .text, some value | .path, some value =>
            (give given form value).bind (readOptions forms none · rest)
          | .text, none | .path, none => readOptions forms (some form) given rest

/-! ## Commands -/

def settingsForm : OptionForm := ⟨"config", none, .path⟩

def versionForm : OptionForm := ⟨"version", some 'V', .final⟩

def inputForm : OptionForm := ⟨"input", some 'i', .path⟩

def flagForm (name : String) : OptionForm := ⟨name, none, .none⟩

def textForm (name : String) : OptionForm := ⟨name, none, .text⟩

/-- The options of a command; nothing if there is no such command. -/
def formsOf? (command : String) : Option (List OptionForm) :=
  match command with
  | "generate" => some [settingsForm, inputForm, ⟨"output", some 'o', .path⟩, textForm "package",
      textForm "contract-name", textForm "client-namespace", textForm "model-namespace",
      flagForm "no-implementation", flagForm "no-models", flagForm "lenient-refs"]
  | "validate" => some [settingsForm, inputForm]
  | "inspect" => some [settingsForm, inputForm, textForm "format"]
  | "init" => some [settingsForm, flagForm "force"]
  | _ => none

def SummaryFormat.ofName? (name : String) : Option SummaryFormat :=
  match name with
  | "yaml" => some .yaml
  | "json" => some .json
  | _ => none

def overridesOf (given : Given) : Overrides where
  input := given.get? "input"
  output := given.get? "output"
  package := given.get? "package"
  contractName := given.get? "contract-name"
  clientScope := given.get? "client-namespace"
  modelScope := given.get? "model-namespace"
  noImplementation := given.contains "no-implementation"
  noModels := given.contains "no-models"
  lenientRefs := given.contains "lenient-refs"

/-- The command with its options. -/
def commandOf? (name : String) (given : Given) : Option Command :=
  match name with
  | "generate" => some (.generate (overridesOf given))
  | "validate" => some (.validate (given.get? "input"))
  | "inspect" =>
    (SummaryFormat.ofName? ((given.get? "format").getD "yaml")).map
      (.inspect (given.get? "input"))
  | "init" => some (.init (given.contains "force"))
  | _ => none

/-- What arguments ask for; nothing if they are used wrongly. -/
def Request.ofArguments? (args : List String) : Option Request := do
  let (before, rest) ← readOptions [settingsForm, versionForm] none [] args
  if before.contains "version" then return .version
  let name :: rest := rest | none
  let (behind, rest) ← readOptions (← formsOf? name) none [] rest
  if !(rest = [] || rest = ["--"]) then none
  let command ← commandOf? name behind
  let path := (behind.get? "config").or (before.get? "config")
  return .perform (path.getD Settings.fileName) command

end ActivityForge.CommandLine
