import SnippetSandbox.Run.Event
import SnippetSandbox.Source.Snippet

/-!
# Who a run calls on

A run relies on a compiler, an executor, a store for the configuration, an
analysis and a detector for entry points.  Nothing is assumed about any of them:
each may change the disk and remember whatever it likes, and the calls that can
fail may fail in every way.
-/

namespace SnippetSandbox.Run

open Analysis FileSystem

/-- What lies outside a run: the disk, and what the others remember. -/
structure Surroundings (Memory : Type) where
  disk : Disk
  memory : Memory

/-- A call that may change the surroundings and may fail. -/
abbrev Call (Memory : Type) := ExceptT Failure (StateM (Surroundings Memory))

def Call.ofTask {Memory Result : Type} (task : Task Result) : Call Memory Result :=
  fun surroundings =>
    let (answer, disk) := task surroundings.disk
    (answer, { surroundings with disk })

/-- The compiler's verdict, with what it had to say. -/
structure Compilation where
  success : Bool
  messages : String
  deriving DecidableEq, Repr

/-- How an execution ended, with what the program wrote about errors. -/
structure Execution where
  success : Bool
  errorOutput : String
  deriving DecidableEq, Repr

/-- Everybody whom a run calls on. -/
structure Collaborators (Memory : Type) where
  /-- Compile these files into a directory. -/
  compile : List String → String → Call Memory Compilation
  /-- Execute an entry point with a classpath and options. -/
  execute : String → List String → List String → Call Memory Execution
  save : Config → Call Memory Unit
  forget : Surroundings Memory → Surroundings Memory
  ingest : String → Call Memory Unit
  lookup : String → Surroundings Memory → Option ClassReport
  detect : Detector

end SnippetSandbox.Run
