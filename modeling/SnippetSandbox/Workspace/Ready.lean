import SnippetSandbox.Workspace.Seed

/-!
# Preparing and resetting a workspace

A workspace is ready when its source and class directories are there.  Sources
are sown only when the source directory is made, so what a user edits or
deletes stays that way.  A reset empties the sandbox directory and makes the
workspace ready again.
-/

namespace SnippetSandbox.Workspace

open FileSystem

/-- Make the directories that are missing.  The result tells whether first
sources were sown. -/
def ensureReady (workspace : Workspace) (seed : Seed) : Task Bool := do
  let present ← Task.ask (·.pathExists workspace.sourceDir)
  if !present then
    (makeDirectories workspace.sourceDir).reportedFor workspace.sourceDir
    workspace.sow seed
  (makeDirectories workspace.classDir).reportedFor workspace.classDir
  return !present && seed != .none

/-- Remove everything in a directory.  What leads to a directory is removed with
all that is in it, but a link is removed and not followed. -/
def emptyDirectory (path : String) : Task Unit := do
  let names ← (readDirectory path).reportedFor path
  names.forM fun name => do
    let inside := Path.join path name
    if ← Task.ask (·.isDirectory inside) then
      (removeTree inside).reportedFor inside
    else
      (removeFile inside).reportedFor inside

/-- Empty the sandbox directory and make the workspace ready again. -/
def reset (workspace : Workspace) (seed : Seed) : Task Unit := do
  if ← Task.ask (·.pathExists workspace.sandboxDir) then
    emptyDirectory workspace.sandboxDir
  let _ ← workspace.ensureReady seed
  return ()

end SnippetSandbox.Workspace
