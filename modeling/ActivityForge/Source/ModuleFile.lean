import ActivityForge.Source.ModelFile

/-!
# Module files

The files that mount the others: one for the models, which re-exports every struct, and one for
the whole output directory.
-/

namespace ActivityForge.Source

/-- A module with the struct that it defines. -/
structure ModelModule where
  module : String
  name : String
deriving DecidableEq, Repr, Inhabited

structure ModelsModule where
  header : String
  modules : List ModelModule
deriving DecidableEq, Repr, Inhabited

structure RootModule where
  header : String
  contractModule : String
  contractName : String
  hasImplementation : Bool
  hasModels : Bool
deriving DecidableEq, Repr, Inhabited

/-- The models that get a file: those with fields. -/
def emittedModels (b : Blueprint) : List Model := b.models.filter fun m => !m.fields.isEmpty

def ModelsModule.ofBlueprint (b : Blueprint) : ModelsModule where
  header := headerLine b.info
  modules := (emittedModels b).map fun m => ⟨escapeKeyword (modelModule m), m.name.pascal⟩

/-- Whether model files are written. -/
def writesModels (b : Blueprint) (s : Settings) : Bool :=
  s.generateModels && !(emittedModels b).isEmpty

def RootModule.ofBlueprint (b : Blueprint) (s : Settings) : RootModule where
  header := headerLine b.info
  contractModule := moduleOfContract s
  contractName := s.contractName
  hasImplementation := s.generateImplementation
  hasModels := writesModels b s

/-! ## Text -/

def ModelsModule.lines (m : ModelsModule) : Lines :=
  ["//! " ++ m.header,
   ""]
  ++ (m.modules.map fun e => "mod " ++ e.module ++ ";")
  ++ [""]
  ++ (m.modules.map fun e => "pub use " ++ e.module ++ "::" ++ e.name ++ ";")

/-- The modules that the root module declares. -/
def RootModule.declared (m : RootModule) : List String :=
  [escapeKeyword m.contractModule]
    ++ (if m.hasImplementation then [m.contractModule ++ "_impl"] else [])
    ++ (if m.hasModels then ["models"] else [])

def RootModule.lines (m : RootModule) : Lines :=
  ["//! " ++ m.header,
   ""]
  ++ (m.declared.map fun e => "pub mod " ++ e ++ ";")
  ++ ["",
   "pub use " ++ escapeKeyword m.contractModule ++ "::\x7b",
   "    ActivityFailure, ActivityOptions, RetryPolicy, " ++ m.contractName ++ ", activity_options,",
   "\x7d;"]
  ++ (if m.hasImplementation then
      ["pub use " ++ m.contractModule ++ "_impl::" ++ m.contractName ++ "Impl;"]
    else [])

end ActivityForge.Source
