import ActivityForge.Blueprint.OfDocument
import ActivityForge.Reading.Shape

/-!
# Settings

What can be set for a run, with a default for everything.  Settings are read from a file of
their own; `Settings.fileName` is where it is looked for and `Settings.initialText` what is put
there to begin with.
-/

namespace ActivityForge

structure Settings where
  /-- The API document. -/
  input : String
  /-- The directory that generated files are written to. -/
  output : String
  /-- The module that the output directory is mounted at. -/
  package : String
  /-- The name of the generated contract. -/
  contractName : String
  /-- The module of the client that the implementation calls. -/
  clientScope : String
  /-- The module that references to models are qualified with. -/
  modelScope : String
  generateImplementation : Bool
  generateModels : Bool
  /-- Whether a reference to a missing schema is an error. -/
  strictRefs : Bool
deriving DecidableEq, Repr

namespace Settings

open Reading

def default : Settings where
  input := "openapi.yaml"
  output := "src/generated"
  package := "crate::generated"
  contractName := "ApiActivity"
  clientScope := "crate::client"
  modelScope := "crate::client::models"
  generateImplementation := true
  generateModels := true
  strictRefs := true

instance : Inhabited Settings := ⟨default⟩

/-- How documents are resolved under the settings. -/
def options (s : Settings) : Options := ⟨s.modelScope, s.strictRefs⟩

/-- Settings as a record in which every field may be left out. -/
def shape : Shape Settings :=
  .record "OactConfig" <|
    Fields.make Settings.mk
      |>.defaulted "input" .text default.input
      |>.defaulted "output" .text default.output
      |>.defaulted "package" .text default.package
      |>.defaulted "contract_name" .text default.contractName
      |>.defaulted "client_namespace" .text default.clientScope
      |>.defaulted "model_namespace" .text default.modelScope
      |>.defaulted "generate_implementation" .flag default.generateImplementation
      |>.defaulted "generate_models" .flag default.generateModels
      |>.defaulted "strict_refs" .flag default.strictRefs

/-- The name of the settings file. -/
def fileName : String := ".oact.yaml"

/-- The first content of a settings file: every default, with comments. -/
def initialText : String :=
"# oact configuration
input: openapi.yaml
output: src/generated
package: crate::generated             # module path the output directory is mounted at

contract_name: ApiActivity            # trait name; the implementation is ApiActivityImpl
client_namespace: crate::client       # generated HTTP client (apis::<tag>_api, apis::configuration)
model_namespace: crate::client::models

generate_implementation: true
generate_models: true

# Fail on $ref targets missing from components/schemas.
# When false the reference is emitted by name and a warning is logged.
strict_refs: true
"

end Settings

end ActivityForge
