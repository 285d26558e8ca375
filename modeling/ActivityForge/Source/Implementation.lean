import ActivityForge.Source.Contract

/-!
# The implementation

The implementation of the contract calls a function of the client for every activity and turns
its failures into those of activities.
-/

namespace ActivityForge.Source

/-- How the implementation defines the method of one activity. -/
structure Definition where
  signature : Signature
  clientModule : String
  arguments : List String
  /-- Whether the result of the client is dropped. -/
  isVoid : Bool
deriving DecidableEq, Repr, Inhabited

structure Implementation where
  header : String
  package : String
  contractModule : String
  imports : List String
  contractName : String
  clientScope : String
  definitions : List Definition
deriving DecidableEq, Repr, Inhabited

def Definition.ofActivity (a : Activity) : Definition :=
  ⟨a.signature, a.clientModule, a.callArguments, a.resultType?.isNone⟩

/-- What the implementation needs from the contract: the request objects only if there are any. -/
def contractImports (b : Blueprint) (s : Settings) : List String :=
  ["API_ERROR", "ActivityFailure", s.contractName]
    ++ if b.activities.any Activity.usesRequest then ["requests"] else []

def Implementation.ofBlueprint (b : Blueprint) (s : Settings) : Implementation where
  header := headerLine b.info
  package := s.package
  contractModule := escapeKeyword (moduleOfContract s)
  imports := contractImports b s
  contractName := s.contractName
  clientScope := s.clientScope
  definitions := b.activities.map Definition.ofActivity

/-! ## Text -/

/-- The call of the client function, with its failure and, if need be, its result adapted. -/
def Definition.callLines (clientScope : String) (d : Definition) : Lines :=
  [clientScope ++ "::apis::" ++ d.clientModule ++ "::" ++ d.signature.name ++ "("]
  ++ indent ("&self.configuration," :: d.arguments.map (· ++ ","))
  ++ [")",
   ".await"]
  ++ (if d.isVoid then [".map(|_| ())"] else [])
  ++ [".map_err(|err| ActivityFailure::new(API_ERROR, format!(\"API call failed: \x7berr\x7d\")))"]

/-- The definition of a method in the implementation. -/
def Definition.lines (clientScope : String) (d : Definition) : Lines :=
  ["async fn " ++ d.signature.name ++ "("]
  ++ d.signature.parameterLines
  ++ block (") -> Result<" ++ d.signature.result ++ ", ActivityFailure>")
    (d.callLines clientScope) ""

def Implementation.lines (i : Implementation) : Lines :=
  let name := i.contractName ++ "Impl"
  ["//! " ++ i.header,
   "",
   "use " ++ i.package ++ "::" ++ i.contractModule ++ "::\x7b" ++ ", ".intercalate i.imports
     ++ "\x7d;",
   "",
   "type Configuration = " ++ i.clientScope ++ "::apis::configuration::Configuration;",
   "",
   "/// [\x60" ++ i.contractName ++ "\x60] backed by the generated HTTP client.",
   "#[derive(Debug, Clone)]"]
  ++ block ("pub struct " ++ name) ["configuration: Configuration,"] ""
  ++ [""]
  ++ block ("impl " ++ name)
    (block "pub fn new(configuration: Configuration) -> Self"
        ["Self \x7b configuration \x7d"] ""
      ++ ["",
       "/// The client configuration every call is made with."]
      ++ block "pub fn configuration(&self) -> &Configuration" ["&self.configuration"] "") ""
  ++ [""]
  ++ block ("impl " ++ i.contractName ++ " for " ++ name)
    (separated (i.definitions.map (Definition.lines i.clientScope))) ""

end ActivityForge.Source
