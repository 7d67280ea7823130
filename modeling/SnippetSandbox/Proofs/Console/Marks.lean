import SnippetSandbox.Proofs.Config.Stored
import SnippetSandbox.Proofs.Console.Checks
import SnippetSandbox.Proofs.Console.Progress

/-!
# What counts about a run for its configuration

A run loads what is stored, registers with the lock in its hands, and stores what registering
has changed.  About any one step it is enough to know which of these lie behind the run, and
what the step does to what is stored.
-/

namespace SnippetSandbox

open FileSystem

namespace Console

open Workspace Run Analysis

theorem prepare_stored {setting : Setting} {files : List String} {preparation : Preparation}
    {before after : Disk} (calm : before.faults = [])
    (prepared : prepare setting files before = (.ok preparation, after)) :
    Config.stored setting.configFile before = .ok preparation.config := by
  rw [prepare] at prepared
  obtain ⟨sources, between, read, prepared⟩ := Effect.bind_ok prepared
  cases ((spends_readSources files).states read).eq_of_calm calm
  obtain ⟨config, rest, loaded, prepared⟩ := Effect.bind_ok prepared
  rw [Config.stored_eq_load calm]
  rw [perform] at loaded
  rcases answered : Config.load setting.configFile before with ⟨failure | found, left⟩
  · rw [answered] at loaded
    cases loaded
  · rw [answered] at loaded
    cases loaded
    obtain ⟨disk, same, asked, prepared⟩ := Effect.bind_ok prepared
    rcases detected : Toolchain.detect disk setting.tools with failure | toolchain
    · rw [detected] at prepared
      cases prepared
    · rw [detected] at prepared
      cases prepared
      rfl

/-- What counts about how far a run has come. -/
inductive Mark
  | idle
  | loaded (preparation : Preparation)
  /-- It has the lock, and has not been through the stage that saves. -/
  | busy (preparation : Preparation)
  /-- It has been through the stage that saves, and may still complete with a member located. -/
  | saved (preparation : Preparation)
  | lost

/-- What a run has loaded that has not been through the stage that saves. -/
def Mark.pending? : Mark → Option Preparation
  | .loaded preparation => some preparation
  | .busy preparation => some preparation
  | _ => none

namespace Progress

def mark : Progress → Mark
  | .idle => .idle
  | .loaded preparation => .loaded preparation
  | .locked _ preparation => .busy preparation
  | .running _ preparation .locating _ => .saved preparation
  | .running _ preparation _ _ => .busy preparation
  | .ending _ ⟨preparation, .ok (.located _), _⟩ => .saved preparation
  | .ending _ _ => .lost
  | .ended (.ok ⟨preparation, .ok (.located _), _⟩) => .saved preparation
  | .ended _ => .lost

/-- The next step registers and saves. -/
def isSave : Progress → Bool
  | .running _ _ .ingesting _ => true
  | _ => false

/-- Until it registers, a run knows the configuration that it has loaded. -/
def Agrees : Progress → Prop
  | .running _ preparation stage known => stage ≠ .locating → known.config = preparation.config
  | _ => True

theorem mark_running {key : FileKey} {preparation : Preparation} {stage : Stage}
    {known : State Gauge} (other : stage ≠ .locating) :
    (running key preparation stage known).mark = .busy preparation := by
  cases stage <;> first | rfl | exact absurd rfl other

/-- Everything that a step can do to the mark of a run and to what is stored. -/
inductive Marks (setting : Setting) (before after : Disk) : Bool → Mark → Mark → Prop
  | loses {saves : Bool} {mark : Mark} : Marks setting before after saves mark .lost
  | loads {preparation : Preparation}
      (loaded : before.faults = [] →
        Config.stored setting.configFile before = .ok preparation.config) :
      Marks setting before after false .idle (.loaded preparation)
  | locks {preparation : Preparation} :
      Marks setting before after false (.loaded preparation) (.busy preparation)
  | works {preparation : Preparation} :
      Marks setting before after false (.busy preparation) (.busy preparation)
  | saves {preparation : Preparation}
      (saves : Saves setting (register setting.workspace preparation.archive preparation.config)
        before after) :
      Marks setting before after true (.busy preparation) (.saved preparation)
  | rests {preparation : Preparation} :
      Marks setting before after false (.saved preparation) (.saved preparation)

theorem isSave_running {key : FileKey} {preparation : Preparation} {stage : Stage}
    {known : State Gauge} (other : stage ≠ .ingesting) :
    (running key preparation stage known).isSave = false := by
  cases stage <;> first | rfl | exact absurd rfl other

theorem marks_running {setting : Setting} {files : List String} {disk : Disk} {key : FileKey}
    {preparation : Preparation} {stage : Stage} {known : State Gauge}
    (agrees : (running key preparation stage known).Agrees) :
    Marks setting disk ((running key preparation stage known).next setting files disk).2
        (running key preparation stage known).isSave (running key preparation stage known).mark
        ((running key preparation stage known).next setting files disk).1.mark ∧
      ((running key preparation stage known).next setting files disk).1.Agrees := by
  rw [next]
  rcases entered : (sandbox setting preparation).enter preparation.sources stage (known.on disk)
    with ⟨failure | led, after⟩
  · exact ⟨.loses, trivial⟩
  cases led with
  | advance next fewer =>
      rcases enter_advance entered with
        ⟨notSaving, notLast, other, config⟩ | ⟨rfl, rfl, config, saves⟩
      · dsimp only
        rw [isSave_running notSaving, mark_running notLast, mark_running other]
        exact ⟨.works, fun _ => config.trans (agrees notLast)⟩
      · refine ⟨.saves ?_, fun other => absurd rfl other⟩
        rw [← agrees (by decide)]
        exact saves
  | stop outcome =>
      refine ⟨?_, trivial⟩
      cases outcome with
      | located member =>
          obtain ⟨rfl, -⟩ := enter_located entered
          exact .rests
      | noEntryPoint | compilationFailed | executionFailed => exact .loses

theorem marks_next {setting : Setting} {files : List String} {progress : Progress} {disk : Disk}
    (agrees : progress.Agrees) :
    Marks setting disk (progress.next setting files disk).2 progress.isSave progress.mark
        (progress.next setting files disk).1.mark ∧
      (progress.next setting files disk).1.Agrees := by
  cases progress with
  | idle =>
      rw [next]
      rcases prepared : prepare setting files disk with ⟨refusal | preparation, after⟩
      · exact ⟨.loses, trivial⟩
      · exact ⟨.loads fun calm => prepare_stored calm prepared, trivial⟩
  | loaded preparation =>
      rw [next]
      rcases setting.workspace.lock disk with ⟨failure | key, after⟩
      · exact ⟨.loses, trivial⟩
      · exact ⟨.locks, trivial⟩
  | locked key preparation =>
      rw [next]
      rcases readied : onDisk (setting.workspace.ensureReady setting.seed)
        (begin preparation disk) with ⟨failure | fresh, after⟩
      · exact ⟨.loses, trivial⟩
      · refine ⟨.works, fun _ => ?_⟩
        exact congrArg (fun answer => answer.2.config) readied.symm
  | running key preparation stage known => exact marks_running agrees
  | ending key finish =>
      obtain ⟨preparation, result, known⟩ := finish
      rcases result with failure | outcome
      · exact ⟨.loses, trivial⟩
      · cases outcome with
        | located member => exact ⟨.rests, trivial⟩
        | noEntryPoint | compilationFailed | executionFailed => exact ⟨.loses, trivial⟩
  | ended answer =>
      rcases answer with refusal | ⟨preparation, failure | outcome, known⟩
      · exact ⟨.loses, trivial⟩
      · exact ⟨.loses, trivial⟩
      · cases outcome with
        | located member => exact ⟨.rests, trivial⟩
        | noEntryPoint | compilationFailed | executionFailed => exact ⟨.loses, trivial⟩

/-- It has been through the stage that saves, and may still complete with a member located. -/
def HasSaved (progress : Progress) : Prop :=
  ∃ preparation, progress.mark = .saved preparation

/-- It has asked for the lock, or has come to its end without. -/
def HasAsked (progress : Progress) : Prop :=
  progress.mark ≠ .idle ∧ ∀ preparation, progress.mark ≠ .loaded preparation

theorem eq_idle_of_mark {progress : Progress} (idle : progress.mark = .idle) :
    progress = .idle := by
  cases progress with
  | idle => rfl
  | loaded | locked => cases idle
  | running key preparation stage known => cases stage <;> cases idle
  | ending key finish =>
      obtain ⟨preparation, failure | outcome, known⟩ := finish
      · cases idle
      · cases outcome <;> cases idle
  | ended answer =>
      rcases answer with refusal | ⟨preparation, failure | outcome, known⟩
      · cases idle
      · cases idle
      · cases outcome <;> cases idle

theorem holds_of_busy {progress : Progress} {preparation : Preparation}
    (busy : progress.mark = .busy preparation) : ∃ key, progress.key? = some key := by
  cases progress with
  | idle | loaded => cases busy
  | locked key | running key | ending key => exact ⟨key, rfl⟩
  | ended answer =>
      rcases answer with refusal | ⟨preparation, failure | outcome, known⟩
      · cases busy
      · cases busy
      · cases outcome <;> cases busy

section Pending

variable {progress : Progress} {preparation : Preparation}

theorem not_hasSaved_of_pending (pending : progress.mark.pending? = some preparation) :
    ¬ progress.HasSaved := by
  rintro ⟨other, saved⟩
  rw [saved] at pending
  cases pending

theorem ne_idle_of_pending (pending : progress.mark.pending? = some preparation) :
    progress ≠ .idle := by
  rintro rfl
  cases pending

end Pending

end Progress

end Console

end SnippetSandbox
