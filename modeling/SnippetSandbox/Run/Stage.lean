/-!
# The stages of a run

A run writes its sources, compiles them, executes the entry point, ingests the
log of the execution and locates a compiled member.  Two further positions end
a run, and one stands for sources without an entry point.
-/

namespace SnippetSandbox.Run

/-- The position of a run. -/
inductive Stage
  | writing
  | compiling
  | executing
  | noEntryPoint
  | ingesting
  | locating
  | done
  | aborted
  deriving DecidableEq, Repr

def Stage.name : Stage → String
  | .writing => "Writing"
  | .compiling => "Compiling"
  | .executing => "Executing"
  | .noEntryPoint => "NoEntryPoint"
  | .ingesting => "Ingesting"
  | .locating => "Locating"
  | .done => "Done"
  | .aborted => "Aborted"

def Stage.all : List Stage :=
  [.writing, .compiling, .executing, .noEntryPoint, .ingesting, .locating, .done, .aborted]

def Stage.ofName? (name : String) : Option Stage :=
  Stage.all.find? fun stage => stage.name = name

theorem Stage.ofName?_name (stage : Stage) : Stage.ofName? stage.name = some stage := by
  cases stage <;> decide

end SnippetSandbox.Run
