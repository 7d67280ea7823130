import Mathlib.Logic.Relation
import SnippetSandbox.Proofs.Console.Client
import SnippetSandbox.Proofs.Run.Passage
import SnippetSandbox.Proofs.Run.Registration

/-!
# A run step by step

A run loads its configuration, takes the lock, makes the workspace ready, goes through its
stages, of which one registers the workspace and saves, and gives the lock back.  Left alone,
the steps one after another are the whole command.
-/

namespace SnippetSandbox.Console

open FileSystem Workspace Run Analysis

/-- A run that has come to its end, before it has given the lock back or after. -/
structure Finish where
  preparation : Preparation
  result : Except Failure Outcome
  known : State Gauge

/-- How far a run has come. -/
inductive Progress
  | idle
  | loaded (preparation : Preparation)
  | locked (key : FileKey) (preparation : Preparation)
  /-- It is about to go through this stage. -/
  | running (key : FileKey) (preparation : Preparation) (stage : Stage) (known : State Gauge)
  | ending (key : FileKey) (finish : Finish)
  | ended (answer : Except Refusal Finish)

namespace Progress

/-- What a run knows when its workspace is being made ready. -/
def begin (preparation : Preparation) (disk : Disk) : State Gauge :=
  { surroundings := { disk, memory := {} }, config := preparation.config }

/-- Go on by one step. -/
def next (setting : Setting) (files : List String) : Progress → Disk → Progress × Disk
  | .idle, disk =>
      match prepare setting files disk with
      | (.ok preparation, changed) => (.loaded preparation, changed)
      | (.error refusal, changed) => (.ended (.error refusal), changed)
  | .loaded preparation, disk =>
      match setting.workspace.lock disk with
      | (.ok key, changed) => (.locked key preparation, changed)
      | (.error failure, changed) => (.ended (.error (.failed failure)), changed)
  | .locked key preparation, disk =>
      match onDisk (setting.workspace.ensureReady setting.seed) (begin preparation disk) with
      | (.ok _, known) =>
          (.running key preparation .writing { known with session := {}, stages := [] },
            known.surroundings.disk)
      | (.error failure, known) =>
          (.ending key ⟨preparation, .error failure, known⟩, known.surroundings.disk)
  | .running key preparation stage known, disk =>
      match (sandbox setting preparation).enter preparation.sources stage (known.on disk) with
      | (.ok (.advance next _), known) =>
          (.running key preparation next known, known.surroundings.disk)
      | (.ok (.stop outcome), known) =>
          (.ending key ⟨preparation, .ok outcome, known⟩, known.surroundings.disk)
      | (.error failure, known) =>
          (.ending key ⟨preparation, .error failure, known⟩, known.surroundings.disk)
  | .ending key finish, disk => (.ended (.ok finish), unlock key disk)
  | .ended answer, disk => (.ended answer, disk)

variable {setting : Setting} {files : List String}

/-- One gets from here to there while nobody else is at work. -/
def Leads (setting : Setting) (files : List String) : Progress × Disk → Progress × Disk → Prop :=
  Relation.ReflTransGen fun now later => later = now.1.next setting files now.2

theorem leads_running (key : FileKey) (preparation : Preparation) (stage : Stage)
    (known : State Gauge) :
    Leads setting files (.running key preparation stage known, known.surroundings.disk)
      (.ending key ⟨preparation, ((sandbox setting preparation).runFrom preparation.sources stage
          known).1, ((sandbox setting preparation).runFrom preparation.sources stage known).2⟩,
        ((sandbox setting preparation).runFrom preparation.sources stage
          known).2.surroundings.disk) := by
  induction remaining : stage.remaining using Nat.strongRecOn generalizing stage known with
  | ind remaining ih =>
      have goes : (Progress.running key preparation stage known).next setting files
          known.surroundings.disk =
          match (sandbox setting preparation).enter preparation.sources stage known with
          | (.ok (.advance next _), known) =>
              (.running key preparation next known, known.surroundings.disk)
          | (.ok (.stop outcome), known) =>
              (.ending key ⟨preparation, .ok outcome, known⟩, known.surroundings.disk)
          | (.error failure, known) =>
              (.ending key ⟨preparation, .error failure, known⟩, known.surroundings.disk) := rfl
      rw [Sandbox.runFrom]
      rcases entered : (sandbox setting preparation).enter preparation.sources stage known with
        ⟨failure | led, after⟩
      · rw [entered] at goes
        rw [Effect.bind_of_error entered]
        exact .single goes.symm
      · rw [entered] at goes
        rw [Effect.bind_of_ok entered]
        cases led with
        | advance next fewer =>
            exact .head goes.symm (ih next.remaining (remaining ▸ fewer) next after rfl)
        | stop outcome => exact .single goes.symm

theorem leads_locked (key : FileKey) (preparation : Preparation) (disk : Disk) :
    Leads setting files (.locked key preparation, disk)
      (.ending key ⟨preparation,
          ((sandbox setting preparation).run preparation.sources (begin preparation disk)).1,
          ((sandbox setting preparation).run preparation.sources (begin preparation disk)).2⟩,
        ((sandbox setting preparation).run preparation.sources
          (begin preparation disk)).2.surroundings.disk) := by
  rcases readied : onDisk (setting.workspace.ensureReady setting.seed) (begin preparation disk) with
    ⟨failure | fresh, after⟩
  · have ran : (sandbox setting preparation).run preparation.sources (begin preparation disk) =
        (.error failure, after) := Effect.bind_of_error readied
    rw [ran]
    refine .single ?_
    rw [next, readied]
  · have ran : (sandbox setting preparation).run preparation.sources (begin preparation disk) =
        (sandbox setting preparation).runFrom preparation.sources .writing
          { after with session := {}, stages := [] } := Effect.bind_of_ok readied
    rw [ran]
    refine .head ?_ (leads_running key preparation .writing
      { after with session := {}, stages := [] })
    rw [next, readied]

/-- A run that is left alone does what the command does. -/
theorem leads_runFiles (disk : Disk) (quiet : Bool) : ∃ answer,
    Leads setting files (.idle, disk) (.ended answer, (runFiles setting files quiet disk).2) ∧
      (runFiles setting files quiet disk).1 =
        answer.map fun finish => shownRun setting quiet (finish.result, finish.known) := by
  rw [runFiles]
  rcases prepared : prepare setting files disk with ⟨refusal | preparation, looked⟩
  · rw [Effect.bind_of_error prepared]
    refine ⟨.error refusal, .single ?_, rfl⟩
    rw [next, prepared]
  rw [Effect.bind_of_ok prepared]
  have loads : Leads setting files (.idle, disk) (.loaded preparation, looked) := by
    refine .single ?_
    rw [next, prepared]
  rcases took : setting.workspace.lock looked with ⟨failure | key, held⟩
  · rw [locked_of_error took]
    refine ⟨.error (.failed failure), loads.tail ?_, rfl⟩
    rw [next, took]
  · rw [locked_of_ok took]
    refine ⟨.ok _, (loads.tail ?_).trans ((leads_locked key preparation held).tail rfl), rfl⟩
    rw [next, took]

/-- The lock that a run has. -/
def key? : Progress → Option FileKey
  | .locked key _ => some key
  | .running key _ _ _ => some key
  | .ending key _ => some key
  | _ => none

section Turns

variable {root : String} {ground : Place} {back : List String} {setting : Setting}
variable {files : List String} {progress : Progress} {disk : Disk}

theorem turns_of_spares {progress later : Progress} {before after : Disk}
    (keeps : IsShared root ground back after ∧ SparesLock ground back before after)
    (same : later.key? = progress.key?) :
    IsShared root ground back after ∧
      (∀ key, before.keyAt? (lockPlace ground back) = some key →
        after.keyAt? (lockPlace ground back) = some key) ∧
      Turns (lockPlace ground back) before after progress.key? later.key? :=
  ⟨keeps.1, keeps.2.key, same ▸ .same keeps.2.locked⟩

theorem turns_next (inside : setting.workspace = .inside root)
    (spares : setting.machine.Spares root ground back) (shared : IsShared root ground back disk) :
    IsShared root ground back (progress.next setting files disk).2 ∧
      (∀ key, disk.keyAt? (lockPlace ground back) = some key →
        (progress.next setting files disk).2.keyAt? (lockPlace ground back) = some key) ∧
      Turns (lockPlace ground back) disk (progress.next setting files disk).2 progress.key?
        (progress.next setting files disk).1.key? := by
  cases progress with
  | idle =>
      obtain ⟨sharedAfter, tree, locked⟩ := (@looks_prepare root ground back setting files).keeps
        (fun one two => ⟨two.1.trans one.1, two.2.trans one.2⟩) shared
      rw [next]
      rcases prepared : prepare setting files disk with ⟨answer, after⟩
      rw [prepared] at sharedAfter tree locked
      have keeps : IsShared root ground back after ∧ SparesLock ground back disk after :=
        ⟨sharedAfter, locked, fun key held => by rwa [Disk.keyAt?, tree]⟩
      cases answer with
      | error refusal => exact turns_of_spares keeps rfl
      | ok preparation => exact turns_of_spares keeps rfl
  | loaded preparation =>
      rw [next, inside]
      rcases locks : (Workspace.inside root).lock disk with ⟨answer, after⟩
      have turns := lock_turns shared locks
      cases answer with
      | error failure => exact turns
      | ok key => exact turns
  | locked key preparation =>
      have keeps := (@obeys_ensureReady root ground back setting.workspace setting.seed).keeps
        SparesLock.trans shared
      rw [next]
      rcases readied : onDisk (setting.workspace.ensureReady setting.seed)
        (begin preparation disk) with ⟨answer, known⟩
      have same : (setting.workspace.ensureReady setting.seed disk).2 = known.surroundings.disk :=
        congrArg (fun answer => answer.2.surroundings.disk) readied
      rw [same] at keeps
      cases answer with
      | error failure => exact turns_of_spares keeps rfl
      | ok fresh => exact turns_of_spares keeps rfl
  | running key preparation stage known =>
      have minds := @minds_enter _ _ _ _ (sandbox setting preparation) inside (mind_sandbox spares)
        preparation.sources stage
      have keeps := (minds known).keeps SparesLock.trans shared
      rw [next]
      rcases entered : (sandbox setting preparation).enter preparation.sources stage
        (known.on disk) with ⟨failure | led, after⟩
      all_goals
        have same : (((sandbox setting preparation).enter preparation.sources stage).from known
            disk).2 = after.surroundings.disk :=
          congrArg (fun answer => answer.2.surroundings.disk) entered
        rw [same] at keeps
      · exact turns_of_spares keeps rfl
      · cases led with
        | advance next fewer => exact turns_of_spares keeps rfl
        | stop outcome => exact turns_of_spares keeps rfl
  | ending key finish => exact ⟨shared.of_same rfl rfl, fun _ => id, .gives rfl⟩
  | ended answer => exact ⟨shared, fun _ => id, .same rfl⟩

end Turns

end Progress

section Stages

variable {setting : Setting} {preparation : Preparation} {sources : List String} {stage : Stage}
variable {known after : State Gauge}

/-- A configuration that registering changed is saved. -/
def Saves (setting : Setting) (registered : Config × Bool) (before after : Disk) : Prop :=
  registered.2 = false ∧ after = before ∨
    registered.2 = true ∧ registered.1.save setting.configFile before = (.ok (), after)

theorem saves_of_storing {registered : Config × Bool} {saves : List Exchange}
    {before stored : Surroundings Gauge}
    (storing : Storing (sandbox setting preparation) registered before saves stored) :
    Saves setting registered before.disk stored.disk := by
  cases storing with
  | needless same => exact .inl ⟨same, rfl⟩
  | stored changed answered =>
      obtain ⟨saved, rfl⟩ := Prod.mk.inj answered
      exact .inr ⟨changed, Prod.ext saved rfl⟩

theorem passes_enter {answer : Except Failure (Run.Step stage)}
    (entered : (sandbox setting preparation).enter sources stage known = (answer, after)) :
    ∃ before later : State (Recorded Gauge), before.config = known.config ∧
      before.surroundings.disk = known.surroundings.disk ∧ later.plain = after ∧
      Passes (sandbox setting preparation) sources before later stage answer := by
  let noted : State Gauge := { known with stages := known.stages ++ [stage] }
  have mirrored := (sandbox setting preparation).mirrors_step sources stage noted.recorded
  rcases done : (sandbox setting preparation).recorded.step sources stage noted.recorded with
    ⟨other, later⟩
  rw [done, State.plain_recorded] at mirrored
  change (sandbox setting preparation).step sources stage noted = (answer, after) at entered
  obtain ⟨rfl, rfl⟩ := Prod.mk.inj (entered.symm.trans mirrored)
  exact ⟨noted.recorded, later, rfl, rfl, rfl, passes_step done⟩

/-- Only one stage leads to the last one, and only that one changes the configuration. -/
theorem enter_advance {next : Stage} {fewer : next.remaining < stage.remaining}
    (entered : (sandbox setting preparation).enter sources stage known =
      (.ok (.advance next fewer), after)) :
    (stage ≠ .ingesting ∧ stage ≠ .locating ∧ next ≠ .locating ∧
      after.config = known.config) ∨
    (stage = .ingesting ∧ next = .locating ∧
      after.config = (register setting.workspace preparation.archive known.config).1 ∧
      Saves setting (register setting.workspace preparation.archive known.config)
        known.surroundings.disk after.surroundings.disk) := by
  obtain ⟨before, later, sameConfig, sameDisk, rfl, passes⟩ := passes_enter entered
  rw [← sameConfig, ← sameDisk]
  cases passes with
  | written adds config entry => exact .inl ⟨by decide, by decide, by decide, config⟩
  | compiled answered adds config session leads =>
      refine .inl ⟨by decide, by decide, ?_, config⟩
      split at leads <;> rw [leads] <;> decide
  | entryless entry same =>
      exact .inl ⟨by decide, by decide, by decide, by rw [same]; rfl⟩
  | executed fresh answered adds config session =>
      exact .inl ⟨by decide, by decide, by decide, config⟩
  | synchronized tries config session =>
      refine .inr ⟨rfl, rfl, config, ?_⟩
      cases tries with
      | @shown registered saves stored isRegistered storing answered adds =>
          -- The gauge looks at the log and leaves the disk as it is.
          have shown : later.surroundings.disk = stored.disk :=
            congrArg (fun answer => answer.2.disk) answered.symm
          change Saves setting _ _ later.surroundings.disk
          rw [shown]
          have saves := saves_of_storing storing
          rwa [isRegistered] at saves

theorem enter_located {member : Option Member}
    (entered : (sandbox setting preparation).enter sources stage known =
      (.ok (.stop (.located member)), after)) :
    stage = .locating ∧ after.config = known.config := by
  obtain ⟨before, later, sameConfig, -, rfl, passes⟩ := passes_enter entered
  rw [← sameConfig]
  cases passes with
  | located shown adds outside config session => exact ⟨rfl, config⟩

end Stages

end SnippetSandbox.Console
