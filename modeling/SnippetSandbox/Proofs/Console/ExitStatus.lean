import SnippetSandbox.Console.Command
import SnippetSandbox.Proofs.Run.Completion
import SnippetSandbox.Proofs.Supervision.Waiting
import SnippetSandbox.Proofs.Toolchain

/-!
# The code that a run ends with

A run of some files ends with code zero just when everything that it needs succeeds, one thing
after the other: each works on the disk that the one before has left.  A tool succeeds when it
is started and found to have ended of itself, before its time was up and with code zero.
-/

namespace SnippetSandbox

open Effect FileSystem

namespace Supervision

/-- The program is started, and it is found to have ended in time and with code zero.  It has
left the disk like this. -/
inductive Succeeds (machine : Machine) (command : Command) (limit : Time.Span) (before : Disk) :
    Disk → Prop
  | intro {child : Child} {deadline round : Nat}
      (launched : machine.launch command before = .ok child)
      (counted : machine.clock.deadline? limit = some deadline)
      (ends : child.EndsIn machine.clock deadline round (.exited 0)) :
      Succeeds machine command limit before (child.progress (machine.clock.elapsed round)).disk

end Supervision

namespace Run

open Supervision

variable {machine : Machine} {toolchain : Toolchain} {limit : Time.Span} {before after : Disk}

end Run

namespace Console

open Analysis Supervision Run

/-- The configuration file is not there, or it holds a configuration. -/
inductive LoadsConfig (file : String) (before : Disk) : Config → Disk → Prop
  | absent {after : Disk} (absent : readText file before = (.error .notFound, after)) :
      LoadsConfig file before .standard after
  | stored {text : String} {config : Config} {after : Disk}
      (read : readText file before = (.ok text, after)) (parsed : Config.parse text = .ok config) :
      LoadsConfig file before config after

/-- A configuration that registration has changed is saved. -/
inductive SavesConfig (file : String) (registered : Config × Bool) (before : Disk) : Disk → Prop
  | needless (same : registered.2 = false) : SavesConfig file registered before before
  | saved {after : Disk} (changed : registered.2 = true)
      (saved : registered.1.save file before = (.ok (), after)) :
      SavesConfig file registered before after

namespace Setting

variable (setting : Setting)

/-- The classpath can be written, no old log is left, the runtime succeeds, the configuration
is saved if need be, and there is a log. -/
inductive Executes (preparation : Preparation) (entry : String) (before : Disk) : Prop
  | intro {places : List String} {cleared executed saved : Disk}
      (looksIn : places =
        Classpath.entries setting.workspace.classDir preparation.config.classLocations)
      (joins : ∀ place ∈ places, ':' ∉ place.toList)
      (clears : ClearsLog setting.workspace.logFile before cleared)
      (succeeds : Succeeds setting.machine
        (setting.machine.command preparation.toolchain.runtime
          (runtimeArguments entry (":".intercalate places)
            (Flags.build preparation.config setting.workspace.logFile)))
        preparation.config.executeTimeout cleared executed)
      (saves : SavesConfig setting.configFile
        (register setting.workspace preparation.archive preparation.config) executed saved)
      (logged : saved.pathExists setting.workspace.logFile = true)

/-- The workspace is made ready, every source is named and written, the compiler succeeds, and
then either no source holds an entry point or the last one that does is executed. -/
inductive Builds (preparation : Preparation) (before : Disk) : Prop
  | intro {fresh : Bool} {snippets : List Snippet} {ready written compiled : Disk}
      (readies : setting.workspace.ensureReady setting.seed before = (.ok fresh, ready))
      (writes : Snippet.Writes setting.workspace.sourceDir Source.hasMainSignature
        preparation.sources ready snippets written)
      (succeeds : Succeeds setting.machine
        (setting.machine.command preparation.toolchain.compiler
          (compilerArguments (snippets.map Snippet.path) setting.workspace.classDir))
        preparation.config.compileTimeout written compiled)
      (executes : (∀ text ∈ preparation.sources, Source.hasMainSignature text = false) ∨
        ∃ last, (snippets.filter Snippet.isEntry).getLast? = some last ∧
          setting.Executes preparation last.name compiled)

end Setting

variable {setting : Setting} {preparation : Preparation} {before after : Disk}

theorem ofFile_ok {file : String} {answer : Except Cause String} {config : Config}
    (held : Config.ofFile file answer = .ok config) :
    (answer = .error .notFound ∧ config = .standard) ∨
      ∃ text, answer = .ok text ∧ Config.parse text = .ok config := by
  unfold Config.ofFile at held
  split at held
  next text =>
    split at held
    next parsed =>
      cases held
      exact .inr ⟨text, rfl, parsed⟩
    next => cases held
  next =>
    cases held
    exact .inl ⟨rfl, rfl⟩
  next => cases held

theorem load_iff {file : String} {config : Config} :
    Config.load file before = (.ok config, after) ↔ LoadsConfig file before config after := by
  rw [Config.load]
  constructor
  · rcases read : readText file before with ⟨answer, left⟩
    intro done
    obtain ⟨held, rfl⟩ := Prod.mk.inj done
    obtain ⟨rfl, rfl⟩ | ⟨text, rfl, parsed⟩ := ofFile_ok held
    · exact .absent read
    · exact .stored read parsed
  · rintro (absent | ⟨read, parsed⟩)
    · rw [absent]
      rfl
    · rw [read]
      dsimp only [Config.ofFile]
      rw [parsed]

end Console

end SnippetSandbox
