import ActivityForge.Workspace.Basic

/-!
# Changes of a workspace

Making directories and writing and removing files.  A change that fails leaves the workspace as
it was, except that `makeDirectories` keeps the directories it has made before it fails.
-/

namespace ActivityForge.Workspace

/-- Makes one directory. -/
def makeDirectory (w : Workspace) (path : String) : Except Fault Workspace := do
  match ← w.target path with
  | .directory _ => throw .alreadyThere
  | .name l _ => if (w.get? l).isSome then throw .alreadyThere else pure (w.put l .directory)

/-- Makes one directory if it is not there. -/
def ensureDirectory (w : Workspace) (path : String) : Workspace × Except Fault Unit :=
  match w.makeDirectory path with
  | .ok made => (made, .ok ())
  | .error f => (w, if w.isDirectory path then .ok () else .error f)

/-- Makes the first of some paths a directory, and the others before it as far as they are
missing; each path is above the one before it. -/
def ensureAll (w : Workspace) : List String → Workspace × Except Fault Unit
  | [] => (w, .ok ())
  | path :: above =>
    if path.isEmpty then (w, .ok ())
    else
      match w.makeDirectory path with
      | .error .notFound =>
        match w.ensureAll above with
        | (made, .error f) => (made, .error f)
        | (made, .ok ()) => made.ensureDirectory path
      | _ => w.ensureDirectory path

/-- Makes a directory and the directories above it as far as they are missing. -/
def makeDirectories (w : Workspace) (path : String) : Workspace × Except Fault Unit :=
  w.ensureAll (Path.ancestors path)

/-- Writes a file, in place of one that may be there. -/
def writeBytes (w : Workspace) (path : String) (content : ByteArray) : Except Fault Workspace := do
  match ← w.target path with
  | .directory _ => throw .isDirectory
  | .name l endsInSlash =>
    if endsInSlash || (w.get? l).any Entry.isDirectory then throw .isDirectory
    else pure (w.put l (.file content))

def write (w : Workspace) (path text : String) : Except Fault Workspace :=
  w.writeBytes path text.toUTF8

/-- Removes a file, or a directory with everything in it. -/
def remove (w : Workspace) (path : String) : Except Fault Workspace := do
  let l ← match ← w.target path with
    | .directory l => pure l
    | .name l _ => pure l
  if (w.get? l).isNone then throw .notFound
  pure { w with entries := w.entries.filter fun (k, _) => !l.isPrefixOf k }

end ActivityForge.Workspace
