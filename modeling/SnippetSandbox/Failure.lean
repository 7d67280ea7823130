import SnippetSandbox.FileSystem.Cause
import SnippetSandbox.Json.Problem
import SnippetSandbox.Run.Stage
import SnippetSandbox.Source.Name

/-!
# Failures that end a run

A compiler that rejects the sources and a program that ends badly are outcomes
of a run and no failures.  A failure says what could not be done, and each kind
of failure comes with a hint on what to do about it.
-/

namespace SnippetSandbox

open FileSystem (Cause)

/-- Why a stored configuration could not be read. -/
inductive ConfigProblem
  | malformed (problem : Json.Problem) (position : Json.Position)
  | reported (message : String)
  deriving DecidableEq, Repr

def ConfigProblem.message : ConfigProblem → String
  | .malformed problem position =>
      problem.message ++ " at line " ++ Text.decimal position.line ++
        " column " ++ Text.decimal position.column
  | .reported message => message

/-- Why a tool could not be used. -/
inductive ToolProblem
  | notFound (tool : String)
  | notStarted (program : String) (cause : Cause)
  | lostTrack (program : String) (cause : Cause)
  | separatorInClasspath
  | reported (message : String)
  deriving DecidableEq, Repr

def ToolProblem.message : ToolProblem → String
  | .notFound tool => tool ++ " not found in JAVA_HOME or PATH"
  | .notStarted program cause => "failed to start " ++ program ++ ": " ++ cause.message
  | .lostTrack program cause => "failed to wait for " ++ program ++ ": " ++ cause.message
  | .separatorInClasspath =>
      "invalid classpath entry: path segment contains separator `:`"
  | .reported message => message

/-- An operation that the current state does not allow. -/
inductive Misuse
  | terminalStage (stage : Run.Stage)
  | reported (message : String)
  deriving DecidableEq, Repr

def Misuse.message : Misuse → String
  | .terminalStage stage => "stage " ++ stage.name ++ " is terminal"
  | .reported message => message

/-- What ended a run before it had an outcome. -/
inductive Failure
  | fileSystem (path : String) (cause : Cause)
  | parse (problem : Source.NamingProblem)
  | config (problem : ConfigProblem)
  | toolchain (problem : ToolProblem)
  | analysis (message : String)
  | invalidOperation (misuse : Misuse)
  | workspaceBusy (lockFile : String)
  /-- The end of a time limit lies beyond what the clock can count. -/
  | clockOverflow
  deriving DecidableEq, Repr

namespace Failure

def message : Failure → String
  | .fileSystem path cause => "filesystem error at " ++ path ++ ": " ++ cause.message
  | .parse problem => "parse error: " ++ problem.message
  | .config problem => "config error: " ++ problem.message
  | .toolchain problem => "toolchain error: " ++ problem.message
  | .analysis message => "analysis error: " ++ message
  | .invalidOperation misuse => "invalid operation: " ++ misuse.message
  | .workspaceBusy lockFile => "workspace busy: " ++ lockFile ++ " is locked by another run"
  | .clockOverflow => "overflow when adding duration to instant"

def hint : Failure → String
  | .fileSystem .. => "check permissions on the sandbox directory, or run `jitbox reset`"
  | .parse _ => "each source must declare a class, interface, enum or record"
  | .config _ => "fix or delete the config file to fall back to defaults"
  | .toolchain _ => "install a JDK and set JAVA_HOME, or put javac and java on PATH"
  | .analysis _ => "the diagnostic log may be truncated; rerun the sandbox"
  | .invalidOperation _ => "start a new run"
  | .workspaceBusy _ => "wait for the other run to finish"
  | .clockOverflow => "choose a shorter time limit"

def withHint (failure : Failure) : String :=
  failure.message ++ "\n  hint: " ++ failure.hint

end Failure

end SnippetSandbox
