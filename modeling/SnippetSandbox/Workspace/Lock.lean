import SnippetSandbox.Workspace.Layout

/-!
# One run at a time

Whoever works in a sandbox holds the lock on its lock file.  The lock belongs to
the file and not to its name.  Taking it never waits, and giving it back is all
that a holder has to do about it, even when it ends abruptly.
-/

namespace SnippetSandbox.Workspace

open FileSystem

/-- Take the workspace's lock; the result is what to give back. -/
def lock (workspace : Workspace) : Task FileKey := do
  match Path.parent? workspace.lockFile with
  | some around => (makeDirectories around).reportedFor around
  | none => pure ()
  let handle ← (openForWriting workspace.lockFile false false).reportedFor workspace.lockFile
  fun disk =>
    match takeLock handle.key disk with
    | (.ok _, changed) => (.ok handle.key, changed)
    | (.error .wouldBlock, changed) => (.error (.workspaceBusy workspace.lockFile), changed)
    | (.error cause, changed) => (.error (.fileSystem workspace.lockFile cause), changed)

def unlock (key : FileKey) (disk : Disk) : Disk :=
  releaseLock key disk

end SnippetSandbox.Workspace
