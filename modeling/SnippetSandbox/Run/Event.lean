import SnippetSandbox.Analysis.Model
import SnippetSandbox.Config.Basic

/-!
# What happens in a run

A run tells its audience three kinds of things, and it calls on others to
compile, execute, store and analyse.  Everything told and every call is an
event, and the events of a run stand in the order in which they happened.
-/

namespace SnippetSandbox.Run

open Analysis

/-- Something the audience of a run is told. -/
inductive Notice
  | progress (line : String)
  | trouble (text : String)
  | navigation (member : Option Member)
  deriving DecidableEq, Repr

/-- Something told, or a call on somebody else. -/
inductive Event
  | told (notice : Notice)
  | compile (files : List String) (outputDir : String)
  /-- `logPresent` tells whether something was at the log file's path when the
  program was started. -/
  | execute (entry : String) (classpath options : List String) (logPresent : Bool)
  | save (config : Config)
  | forget
  | ingest (logFile : String)
  | lookup (name : String)
  deriving DecidableEq, Repr

end SnippetSandbox.Run
