import ActivityForge.Document.Reader
import ActivityForge.Settings
import ActivityForge.Source.Artifact
import ActivityForge.Workspace.Change

/-!
# Generation

A run of a generator on a workspace: `Generation.plan` reads the document, resolves it to a
blueprint and makes the artifacts of the blueprint, and `Generation.runWith` also writes them.
Nothing is written before all artifacts are made.  `Generation.run` is the run with the generator of
activities.
-/

namespace ActivityForge.Generation

/-- Why a text gives no blueprint. -/
inductive Rejection
  | unread (e : Document.ReadError)
  | unresolved (e : Document.ReferenceError)
deriving DecidableEq, Repr

/-- The texts of a rejection and its causes, outermost first. -/
def Rejection.messages : Rejection → List String
  | .unread e =>
    ("parse error: " ++ e.message) :: e.message :: match e with
      | .json f | .yaml f => [f.text]
      | .unsupportedVersion _ => []
  | .unresolved e => ["resolve error: " ++ e.message, e.message]

/-- Why a run stops. -/
inductive Error
  | inputNotFound (path : String)
  | unreadable (path : String) (fault : Workspace.Fault)
  | rejected (path : String) (cause : Rejection)
  | noDirectory (path : String) (fault : Workspace.Fault)
  | notWritten (path : String) (fault : Workspace.Fault)
deriving DecidableEq, Repr

/-- The texts of an error and its causes, outermost first. -/
def Error.messages : Error → List String
  | .inputNotFound path => ["OpenAPI spec file not found: " ++ path]
  | .unreadable path f => ["failed to read " ++ path ++ ": " ++ f.message, f.message]
  | .rejected path cause =>
    ("failed to process " ++ path ++ ": " ++ cause.messages.head?.getD "") :: cause.messages
  | .noDirectory path f =>
    ["failed to create directory " ++ path ++ ": " ++ f.message, f.message]
  | .notWritten path f => ["failed to write " ++ path ++ ": " ++ f.message, f.message]

def Error.message (e : Error) : String := e.messages.head?.getD ""

/-! ## Planning -/

/-- The text of the document at a path. -/
def readInput (w : Workspace) (path : String) : Except Error String :=
  if !w.isFile path then .error (.inputNotFound path)
  else (w.read path).mapError (.unreadable path)

/-- The blueprint of a text that stands in the file at a path. -/
def resolve (path text : String) (o : Options) : Logged Rejection Blueprint :=
  match Document.ofFile path text with
  | .error e => Logged.ofExcept (.error (.unread e))
  | .ok d => (Blueprint.ofDocument d o).mapError .unresolved

/-- The blueprint of the document at a path. -/
def load (w : Workspace) (path : String) (o : Options) : Logged Error Blueprint := do
  let text ← Logged.ofExcept (readInput w path)
  (resolve path text o).mapError (.rejected path)

/-- Makes the artifacts of a blueprint, or fails in a way of its own. -/
abbrev Generator (ε : Type) := Blueprint → Settings → Logged ε (List Source.Artifact)

/-- The generator of activities never fails. -/
def activities : Generator Empty := fun b s => do
  Logged.note (Source.generateNotes b s)
  pure (Source.generate b s)

/-- The blueprint that a run writes out, and its artifacts. -/
def plan {ε : Type} (generator : Generator ε) (w : Workspace) (s : Settings) :
    Logged (Error ⊕ ε) (Blueprint × List Source.Artifact) := do
  let b ← (load w s.input s.options).mapError Sum.inl
  Logged.note (info (s.input ++ ": " ++ toString b.activities.length ++ " operations, "
    ++ toString b.models.length ++ " models"))
  let artifacts ← (generator b s).mapError Sum.inr
  pure (b, artifacts)

/-! ## Writing -/

/-- Writes one artifact into the output directory; the path is that of the written file. -/
def writeArtifact (output : String) (a : Source.Artifact) (w : Workspace) :
    Workspace × Except Error String :=
  let path := Path.join output a.path
  let directory := (Path.parent? path).getD ""
  match w.makeDirectories directory with
  | (w, .error f) => (w, .error (.noDirectory directory f))
  | (w, .ok ()) =>
    match w.write path a.content with
    | .error f => (w, .error (.notWritten path f))
    | .ok w => (w, .ok path)

/-- Writes artifacts in order, up to the first that cannot be written. -/
def writeAll (output : String) : List Source.Artifact → Workspace →
    Workspace × Logged Error (List String)
  | [], w => (w, pure [])
  | a :: rest, w =>
    match writeArtifact output a w with
    | (w, .error e) => (w, Logged.ofExcept (.error e))
    | (w, .ok path) =>
      let (w, written) := writeAll output rest w
      (w, do
        Logged.note (debug ("wrote " ++ path))
        let paths ← written
        pure (path :: paths))

/-- Makes the output directory and writes artifacts into it. -/
def writeOutput (output : String) (artifacts : List Source.Artifact) (w : Workspace) :
    Workspace × Logged Error (List String) :=
  match w.makeDirectories output with
  | (w, .error f) => (w, Logged.ofExcept (.error (.noDirectory output f)))
  | (w, .ok ()) => writeAll output artifacts w

/-- What a run has done. -/
structure Report where
  /-- The paths of the written files, in order. -/
  written : List String
  activities : Nat
  models : Nat
deriving DecidableEq, Repr

/-- Plans and writes; the workspace is returned as the run leaves it. -/
def runWith {ε : Type} (generator : Generator ε) (w : Workspace) (s : Settings) :
    Workspace × Logged (Error ⊕ ε) Report :=
  let planned := plan generator w s
  match planned.result with
  | .error e => (w, ⟨planned.log, .error e⟩)
  | .ok (b, artifacts) =>
    let (left, written) := writeOutput s.output artifacts w
    (left, do
      Logged.note planned.log
      let paths ← written.mapError Sum.inl
      Logged.note (info ("wrote " ++ toString paths.length ++ " files to " ++ s.output))
      pure ⟨paths, b.activities.length, b.models.length⟩)

/-- A run with the generator of activities. -/
def run (w : Workspace) (s : Settings) : Workspace × Logged Error Report :=
  let (left, ran) := runWith activities w s
  (left, ran.mapError fun
    | .inl e => e
    | .inr failure => nomatch failure)

end ActivityForge.Generation
