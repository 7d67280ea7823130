import SnippetSandbox.Analysis.Model
import SnippetSandbox.Run.Stage

/-!
# How a run ends

A run without a failure has one of four outcomes.  Each belongs to the position
at which the run stops.
-/

namespace SnippetSandbox.Run

/-- The result of a run. -/
inductive Outcome
  /-- Every stage took place; the member that was found, if any. -/
  | located (member : Option Analysis.Member)
  /-- The sources were compiled, but none can be executed. -/
  | noEntryPoint
  /-- The compiler rejected the sources. -/
  | compilationFailed (messages : String)
  /-- The program ended badly or not in time. -/
  | executionFailed (errorOutput : String)
  deriving DecidableEq, Repr

def Outcome.finalStage : Outcome → Stage
  | .located _ => .done
  | .noEntryPoint => .noEntryPoint
  | .compilationFailed _ | .executionFailed _ => .aborted

/-- How many stages can still follow a position. -/
def Stage.remaining : Stage → Nat
  | .writing => 4
  | .compiling => 3
  | .executing => 2
  | .ingesting => 1
  | .locating | .noEntryPoint | .done | .aborted => 0

/-- What a stage leads to: a stage with fewer to follow, or the end. -/
inductive Step (stage : Stage)
  | advance (next : Stage) (later : next.remaining < stage.remaining)
  | stop (outcome : Outcome)
  deriving DecidableEq, Repr

end SnippetSandbox.Run
