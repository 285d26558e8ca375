import ActivityForge.CommandLine.Watch

/-!
# The program

`main` takes the files and directories that its arguments make it look at into a workspace,
performs the command there, and carries the changes out.
-/

open ActivityForge

/-- What is at a place; reading a directory fails with a code of its own. -/
def probe (l : Location) : IO (Option Workspace.Entry) := do
  try
    return some (.file (← IO.FS.readBinFile ("/" ++ "/".intercalate l)))
  catch
    | .inappropriateType _ 21 _ => return some .directory
    | _ => return none

/-- Takes the places along the watched paths into the workspace, in as many rounds as it takes to
know the paths: those of the settings, of the document and of what is generated. -/
def gather (args : List String) : Nat → Workspace → IO Workspace
  | 0, w => return w
  | rounds + 1, w => do
    let unseen := ((CommandLine.watchedPaths w args).flatMap (CommandLine.sites w.here)).filter
      fun l => (w.get? l).isNone
    let found ← unseen.filterMapM fun l => return (← probe l).map (l, ·)
    gather args rounds (found.foldl (fun w (l, e) => w.put l e) w)

/-- Carries out one change. -/
def carryOut : Location × Workspace.Entry → IO Unit
  | (l, .directory) => IO.FS.createDir ("/" ++ "/".intercalate l)
  | (l, .file content) => IO.FS.writeBinFile ("/" ++ "/".intercalate l) content

def main (args : List String) : IO UInt32 := do
  let here := Path.components (← IO.currentDir).toString
  let w ← gather args 3 (.ofDirectory here)
  let outcome := CommandLine.perform w args
  (CommandLine.changes w outcome.workspace).forM carryOut
  IO.print outcome.output
  IO.eprint outcome.messages
  return outcome.code.toUInt32
