import ActivityForge.Log
import ActivityForge.Source.Implementation
import ActivityForge.Source.ModuleFile

/-!
# Artifacts

The files that are generated from a blueprint, in the order in which they are written: the
contract, the implementation, the models with their module file, and the root module file.
-/

namespace ActivityForge.Source

/-- A generated file, with its path inside the output directory. -/
structure Artifact where
  path : String
  content : String
deriving DecidableEq, Repr, Inhabited

def contractArtifact (b : Blueprint) (s : Settings) : Artifact :=
  ⟨moduleOfContract s ++ ".rs", (Contract.ofBlueprint b s).lines.text⟩

def implementationArtifact (b : Blueprint) (s : Settings) : Artifact :=
  ⟨moduleOfContract s ++ "_impl.rs", (Implementation.ofBlueprint b s).lines.text⟩

def modelArtifact (info : Document.Info) (m : Model) : Artifact :=
  ⟨"models/" ++ modelModule m ++ ".rs", (ModelFile.ofModel info m).lines.text⟩

/-- The model files and their module file; none if no model has fields. -/
def modelArtifacts (b : Blueprint) : List Artifact :=
  if (emittedModels b).isEmpty then []
  else
    (emittedModels b).map (modelArtifact b.info)
      ++ [⟨"models/mod.rs", (ModelsModule.ofBlueprint b).lines.text⟩]

def rootArtifact (b : Blueprint) (s : Settings) : Artifact :=
  ⟨"mod.rs", (RootModule.ofBlueprint b s).lines.text⟩

def generate (b : Blueprint) (s : Settings) : List Artifact :=
  [contractArtifact b s]
    ++ (if s.generateImplementation then [implementationArtifact b s] else [])
    ++ (if s.generateModels then modelArtifacts b else [])
    ++ [rootArtifact b s]

/-- What is noted while the artifacts are generated. -/
def generateNotes (b : Blueprint) (s : Settings) : Log :=
  (if s.generateModels then
      (b.models.filter fun m => m.fields.isEmpty).flatMap fun m =>
        debug ("skipping model " ++ m.name.original ++ " without properties")
    else [])
  ++ debug (toString (generate b s).length ++ " files for " ++ toString b.activities.length
    ++ " operations")

end ActivityForge.Source
