import SnippetSandbox.Failure
import SnippetSandbox.FileSystem.Disk

/-!
# Work on a disk that may fail

A task changes a disk and either has a result or ends with a failure.  An
operation on files becomes a task by naming the path that its failure is
reported for, which need not be the path that the system refused.
-/

namespace SnippetSandbox

open FileSystem

/-- Work on a disk with a result or a failure. -/
abbrev Task := ExceptT Failure (StateM Disk)

def FileSystem.Operation.reportedFor {Result : Type} (operation : Operation Result)
    (path : String) : Task Result := fun disk =>
  match operation disk with
  | (.ok result, changed) => (.ok result, changed)
  | (.error cause, changed) => (.error (.fileSystem path cause), changed)

def Task.ask {Result : Type} (question : Disk → Result) : Task Result := fun disk =>
  (.ok (question disk), disk)

end SnippetSandbox
