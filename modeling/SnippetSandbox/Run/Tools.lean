import SnippetSandbox.Supervision.Bounded
import SnippetSandbox.Run.Classpath
import SnippetSandbox.Run.Collaborators
import SnippetSandbox.Text.Blank
import SnippetSandbox.Toolchain

/-!
# Compiling and executing with the tools

The compiler is given the directory to write to and the files, the runtime its
options, the classpath and the entry point.  Both may run for a limited time
only.  A tool that ends badly or not in time has done its work; only one that
cannot be run at all is a failure.
-/

namespace SnippetSandbox.Run

open Supervision Time

def compilerArguments (files : List String) (outputDir : String) : List String :=
  ["-g", "-d", outputDir] ++ files

def runtimeArguments (entry classpath : String) (options : List String) : List String :=
  options ++ ["-cp", classpath, entry]

/-- The compiler's verdict.  Its messages come from the error output, followed by
the plain output unless that is blank. -/
def Compilation.ofFinished (limit : Span) (finished : Finished) : Compilation :=
  if finished.timedOut then
    ⟨false, "compilation timed out after " ++ limit.text⟩
  else
    let blank := finished.output.toList.all Text.isBlank
    ⟨finished.isSuccess, if blank then finished.errors else finished.errors ++ finished.output⟩

/-- How an execution ended.  Of a timeout, what the program wrote about errors
stands on the lines below. -/
def Execution.ofFinished (limit : Span) (finished : Finished) : Execution :=
  if finished.timedOut then
    let notice := "execution timed out after " ++ limit.text
    ⟨false, if finished.errors = "" then notice else notice ++ "\n" ++ finished.errors⟩
  else ⟨finished.isSuccess, finished.errors⟩

def compileWith (machine : Machine) (toolchain : Toolchain) (limit : Span)
    (files : List String) (outputDir : String) : Task Compilation := do
  let command := machine.command toolchain.compiler (compilerArguments files outputDir)
  return .ofFinished limit (← runBounded machine command limit)

def executeWith (machine : Machine) (toolchain : Toolchain) (limit : Span)
    (entry : String) (places options : List String) : Task Execution := do
  match Classpath.join places with
  | .error problem => throw (.toolchain problem)
  | .ok classpath =>
      let command :=
        machine.command toolchain.runtime (runtimeArguments entry classpath options)
      return .ofFinished limit (← runBounded machine command limit)

end SnippetSandbox.Run
