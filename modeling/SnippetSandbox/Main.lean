import SnippetSandbox.Console.Command
import SnippetSandbox.Shell.Installation
import SnippetSandbox.Shell.Launch

/-!
# The command

A command works on a snapshot of the files it can reach: those below the
working directory, those below every path that its arguments name, and the
tools.  What the command changed in the snapshot is then written back.  Tools
are run by the library's own shell, so they are scripts.
-/

namespace SnippetSandbox.Command

open FileSystem

def realPath? (path : String) : IO (Option String) := do
  try
    return some (← IO.FS.realPath path).toString
  catch _ => return none

/-- The tree with all the files that are below a directory.  A link that leads
nowhere is left out. -/
partial def withFilesBelow (place : Place) (tree : Tree) : IO Tree := do
  let directory ← IO.FS.realPath place.path
  let mut tree := tree.put place .directory
  for item in ← directory.readDir do
    let inner := item.fileName :: place
    match (← item.path.symlinkMetadata).type with
    | .dir => tree ← withFilesBelow inner tree
    | .file => tree := tree.create inner (← IO.FS.readBinFile item.path) true
    | .symlink =>
        if let some target ← realPath? item.path.toString then
          tree := tree.put inner (.link target)
    | .other => pure ()
  return tree

def withWayTo : Place → Tree → Tree
  | [], tree => tree
  | name :: around, tree =>
      let tree := withWayTo around tree
      if (tree.lookup (name :: around)).isSome then tree
      else tree.put (name :: around) .directory

def withFilesAt (path : String) (tree : Tree) : IO Tree := do
  let some real ← realPath? path | return tree
  let place := (Path.names real).reverse
  let tree := withWayTo place.tail tree
  let around ← IO.FS.realPath (Place.path place.tail)
  if ← (around / place.headD ".").isDir then withFilesBelow place tree
  else return tree.create place (← IO.FS.readBinFile real) true

def namedPaths (arguments : List String) (tools : ToolEnvironment) : List String :=
  let ofArguments := arguments.flatMap fun argument => argument.splitOn "="
  let directories := (tools.kitHome.map (Path.join · "bin")).toList ++
    (tools.searchPath.map (·.splitOn ":")).getD []
  let ofTools := (directories.map fun entry => (Toolchain.fromHome? tools.userHome entry).getD entry).flatMap fun directory =>
    [Path.join directory Toolchain.compilerName, Path.join directory Toolchain.runtimeName]
  let archives := tools.kitHome.toList.flatMap fun home =>
    [Path.join home "lib/src.zip", Path.join home "src.zip"]
  (ofArguments ++ ofTools ++ archives).filter (· ≠ "")

def snapshot (current : String) (paths : List String) : IO Disk := do
  let tree ← (current :: paths).foldlM (fun tree path => withFilesAt path tree)
    Shell.installedTree
  return { tree, current := (Path.names current).reverse }

def writeBack (before after : Tree) : IO Unit := do
  for (place, entry) in before.entriesBelow [] do
    if (after.lookup place).isNone && after.lookup place.tail = some .directory then
      match entry with
      | .directory => IO.FS.removeDirAll place.path
      | _ => IO.FS.removeFile place.path
  for (place, entry) in after.entriesBelow [] do
    if before.lookup place ≠ some entry then
      match entry with
      | .directory => IO.FS.createDirAll place.path
      | .file _ content executable =>
          IO.FS.writeBinFile place.path content
          if executable then
            let all : IO.AccessRight := ⟨true, true, true⟩
            let others : IO.AccessRight := ⟨true, false, true⟩
            IO.setAccessRights place.path ⟨all, others, others⟩
      | _ => pure ()

def workspace? (current : String) : Console.Request → Option Workspace
  | .perform _ options => (Workspace.at? current (options.root.getD current)).toOption
  | _ => none

/-- Take the lock of a workspace against other processes.  The snapshot says so
when another one holds it. -/
def lockAgainstOthers (workspace : Option Workspace) (disk : Disk) :
    IO (Option IO.FS.Handle × Disk) := do
  let some workspace := workspace | return (none, disk)
  try
    let handle ← IO.FS.Handle.mk workspace.lockFile .readWrite
    if ← handle.tryLock then return (some handle, disk)
    else return (none, (workspace.lock disk).2)
  catch _ => return (none, disk)

/-- A number of nanoseconds as seconds with two places. -/
def secondsText (nanoseconds : Nat) : String :=
  let hundredths := (nanoseconds + 5000000) / 10000000
  let places := Text.decimal (hundredths % 100 + 100)
  Text.decimal (hundredths / 100) ++ "." ++ (places.drop 1).toString

end SnippetSandbox.Command

open SnippetSandbox SnippetSandbox.Command in
def main (arguments : List String) : IO UInt32 := do
  let start ← IO.monoNanosNow
  let current := (← IO.currentDir).toString
  let tools : ToolEnvironment :=
    { kitHome := ← IO.getEnv "JAVA_HOME", searchPath := ← IO.getEnv "PATH",
      userHome := ← IO.getEnv "HOME" }
  let environment := (tools.searchPath.map fun path => ("PATH", path)).toList
  let machine : Supervision.Machine :=
    { launch := Shell.launch, environment, clock := .steady start }
  let before ← snapshot current (namedPaths arguments tools)
  let (handle, disk) ← lockAgainstOthers (workspace? current (.ofArguments arguments)) before
  let (transcript, after) := Console.carryOut machine tools arguments disk
  writeBack before.tree after.tree
  if let some handle := handle then handle.unlock
  IO.print (transcript.outputText (secondsText ((← IO.monoNanosNow) - start)))
  IO.eprint transcript.errors
  return transcript.code.toUInt32
