import SnippetSandbox.Task

/-!
# Where a workspace keeps things

Everything a run writes lies in a sandbox directory inside the workspace's root:
the sources, the classes and the log.  The lock file lies beside that directory,
so that emptying the sandbox does not touch it.
-/

namespace SnippetSandbox

open FileSystem

/-- The paths of a workspace, all of them absolute. -/
structure Workspace where
  /-- Emptied by a reset. -/
  sandboxDir : String
  /-- Holds the written sources. -/
  sourceDir : String
  /-- Holds what the compiler makes, and comes first on the classpath. -/
  classDir : String
  /-- Where the executed program is told to write its log. -/
  logFile : String
  /-- Locked by whoever works in the sandbox. -/
  lockFile : String
  deriving DecidableEq, Repr

namespace Workspace

/-- The workspace inside an absolute root. -/
def inside (root : String) : Workspace :=
  let sandbox := Path.join root "sandbox"
  { sandboxDir := sandbox
    sourceDir := Path.join sandbox "sources"
    classDir := Path.join sandbox "classes"
    logFile := Path.join sandbox "sandbox.log"
    lockFile := Path.join root "sandbox.lock" }

/-- The workspace inside a root that is seen from a working directory. -/
def at? (current root : String) : Except Failure Workspace :=
  match Path.absolute current root with
  | .ok absolute => .ok (inside absolute)
  | .error cause => .error (.fileSystem root cause)

end Workspace

end SnippetSandbox
