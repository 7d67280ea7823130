import SnippetSandbox.Proofs.Run.Sources

/-!
# Runs that complete

A run completes when it has located a member or found nothing to execute, and not when a tool
has stopped it or something has failed.  What each stage needs for that is told by what the
stages behind it need, from the last one back to the first.
-/

namespace SnippetSandbox

namespace Effect

variable {Error State First Second : Type}

end Effect

open Effect FileSystem

/-- Texts are written one after another, each as a snippet of its own. -/
inductive Snippet.Writes (sourceDir : String) (detector : Detector) :
    List String → Disk → List Snippet → Disk → Prop
  | nothing {disk : Disk} : Writes sourceDir detector [] disk [] disk
  | more {text : String} {others : List String} {snippet : Snippet} {snippets : List Snippet}
      {before between after : Disk}
      (wrote : write sourceDir detector text before = (.ok snippet, between))
      (writes : Writes sourceDir detector others between snippets after) :
      Writes sourceDir detector (text :: others) before (snippet :: snippets) after

theorem Snippet.Writes.judged {sourceDir : String} {detector : Detector} {texts : List String}
    {before after : Disk} {snippets : List Snippet}
    (writes : Writes sourceDir detector texts before snippets after) :
    snippets.map Snippet.isEntry = texts.map detector := by
  induction writes with
  | nothing => rfl
  | more wrote writes ih => rw [List.map_cons, List.map_cons, ih, Run.isEntry_write wrote]

namespace Run

variable {Memory Result : Type}

theorem Classpath.join_of_free {places : List String}
    (free : ∀ place ∈ places, ':' ∉ place.toList) :
    Classpath.join places = .ok (":".intercalate places) :=
  if_neg (by simpa using free)

/-- The log of an earlier run is not there, or it is removed. -/
inductive ClearsLog (logFile : String) (before : Disk) : Disk → Prop
  | absent (absent : before.pathExists logFile = false) : ClearsLog logFile before before
  | removed {after : Disk} (present : before.pathExists logFile = true)
      (removed : removeFile logFile before = (.ok (), after)) : ClearsLog logFile before after

namespace Sandbox

variable (sandbox : Sandbox Memory)

/-- A changed configuration is stored, and the log is shown to the analysis afresh. -/
inductive Registers (config : Config) (before : Surroundings Memory) : Prop
  | intro {saves : List Exchange} {stored shown : Surroundings Memory}
      (storing : Storing sandbox (register sandbox.workspace sandbox.archive config) before saves
        stored)
      (ingests : sandbox.collaborators.ingest sandbox.workspace.logFile
        (sandbox.collaborators.forget stored) = (.ok (), shown))

/-- An entry point is executed without an old log, and everything behind it succeeds. -/
inductive Executes (config : Config) (entry : String) (before : Surroundings Memory) : Prop
  | intro {cleared : Disk} {errors : String} {executed : Surroundings Memory}
      (joins : ∀ place ∈ places sandbox config, ':' ∉ place.toList)
      (clears : ClearsLog sandbox.workspace.logFile before.disk cleared)
      (executes : sandbox.collaborators.execute entry (places sandbox config)
        (flags sandbox config) { before with disk := cleared } = (.ok ⟨true, errors⟩, executed))
      (registers : sandbox.Registers config executed)

variable {sandbox} {sources : List String} {state : State Memory}

end Sandbox

end Run

end SnippetSandbox
