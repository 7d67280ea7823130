import SnippetSandbox.Proofs.Effect
import SnippetSandbox.Run.Sandbox

/-!
# What a run exchanges with others

A recorded sandbox does the same as the sandbox it was made of, and besides it
keeps every call on somebody else with the answer and with the disk before and
after it.  Taking the record away from each state of a recorded run gives the
run itself, so what the record says is what happened.
-/

namespace SnippetSandbox.Run

open FileSystem

/-- An answer, with the disk on which it was asked for and the disk it left. -/
structure Reply (Result : Type) where
  before : Disk
  answer : Except Failure Result
  after : Disk

/-- A call on somebody else and what came of it. -/
inductive Exchange
  | compile (files : List String) (outputDir : String) (reply : Reply Compilation)
  | execute (entry : String) (classpath options : List String) (reply : Reply Execution)
  | save (config : Config) (reply : Reply Unit)
  | forget (before after : Disk)
  | ingest (logFile : String) (reply : Reply Unit)

/-- In this exchange the compiler gave this answer. -/
inductive Compiles (answer : Except Failure Compilation) : Exchange → Prop
  | intro (files : List String) (outputDir : String) (before after : Disk) :
      Compiles answer (.compile files outputDir ⟨before, answer, after⟩)

/-- In this exchange the executor gave this answer. -/
inductive Executes (answer : Except Failure Execution) : Exchange → Prop
  | intro (entry : String) (classpath options : List String) (before after : Disk) :
      Executes answer (.execute entry classpath options ⟨before, answer, after⟩)

/-- In this exchange the store was asked to keep a configuration and gave this answer. -/
inductive Saves (config : Config) (answer : Except Failure Unit) : Exchange → Prop
  | intro (before after : Disk) : Saves config answer (.save config ⟨before, answer, after⟩)

/-- In this exchange the analysis was shown a log and gave this answer. -/
inductive Ingests (logFile : String) (answer : Except Failure Unit) : Exchange → Prop
  | intro (before after : Disk) :
      Ingests logFile answer (.ingest logFile ⟨before, answer, after⟩)

/-- The store was not called, or it was called once and kept this configuration. -/
inductive Stores (config : Config) : List Exchange → Prop
  | needless : Stores config []
  | stored {exchange : Exchange} (saves : Saves config (.ok ()) exchange) :
      Stores config [exchange]

/-- The analysis was made to forget and then shown a log, to which it gave this answer. -/
inductive Shows (logFile : String) (answer : Except Failure Unit) : List Exchange → Prop
  | intro {before after : Disk} {exchange : Exchange}
      (ingests : Ingests logFile answer exchange) :
      Shows logFile answer [.forget before after, exchange]

/-- What the others remember, and a record of the exchanges with them in order. -/
structure Recorded (Memory : Type) where
  memory : Memory
  exchanges : List Exchange := []

variable {Memory Result Next : Type}

namespace Surroundings

/-- The surroundings without the record. -/
def plain (surroundings : Surroundings (Recorded Memory)) : Surroundings Memory :=
  { disk := surroundings.disk, memory := surroundings.memory.memory }

/-- The surroundings with a further exchange on the record, which led to these. -/
def noting (surroundings : Surroundings (Recorded Memory)) (exchange : Exchange)
    (after : Surroundings Memory) : Surroundings (Recorded Memory) :=
  { disk := after.disk
    memory :=
      { memory := after.memory, exchanges := surroundings.memory.exchanges ++ [exchange] } }

end Surroundings

/-- A call that is put on the record. -/
def Call.recorded (exchange : Reply Result → Exchange) (request : Call Memory Result) :
    Call (Recorded Memory) Result := fun surroundings =>
  let (answer, after) := request surroundings.plain
  (answer, surroundings.noting (exchange ⟨surroundings.disk, answer, after.disk⟩) after)

/-- The same collaborators with every call on them put on the record. -/
def Collaborators.recorded (collaborators : Collaborators Memory) :
    Collaborators (Recorded Memory) where
  compile files outputDir :=
    (collaborators.compile files outputDir).recorded (.compile files outputDir)
  execute entry places options :=
    (collaborators.execute entry places options).recorded (.execute entry places options)
  save config := (collaborators.save config).recorded (.save config)
  forget surroundings :=
    let after := collaborators.forget surroundings.plain
    surroundings.noting (.forget surroundings.disk after.disk) after
  ingest logFile := (collaborators.ingest logFile).recorded (.ingest logFile)
  lookup name surroundings := collaborators.lookup name surroundings.plain
  detect := collaborators.detect

/-- The same sandbox with every exchange put on the record. -/
def Sandbox.recorded (sandbox : Sandbox Memory) : Sandbox (Recorded Memory) where
  workspace := sandbox.workspace
  seed := sandbox.seed
  archive := sandbox.archive
  collaborators := sandbox.collaborators.recorded

@[simp] theorem Sandbox.recorded_workspace (sandbox : Sandbox Memory) :
    sandbox.recorded.workspace = sandbox.workspace := rfl

namespace State

/-- The state without the record. -/
def plain (state : State (Recorded Memory)) : State Memory :=
  { state with surroundings := state.surroundings.plain }

/-- The state with a record that is still empty. -/
def recorded (state : State Memory) : State (Recorded Memory) :=
  { state with
    surroundings :=
      { disk := state.surroundings.disk, memory := { memory := state.surroundings.memory } } }

/-- The exchanges on the record. -/
def exchanges (state : State (Recorded Memory)) : List Exchange :=
  state.surroundings.memory.exchanges

@[simp] theorem plain_config (state : State (Recorded Memory)) :
    state.plain.config = state.config := rfl

@[simp] theorem plain_session (state : State (Recorded Memory)) :
    state.plain.session = state.session := rfl

@[simp] theorem plain_events (state : State (Recorded Memory)) :
    state.plain.events = state.events := rfl

@[simp] theorem plain_stages (state : State (Recorded Memory)) :
    state.plain.stages = state.stages := rfl

@[simp] theorem plain_recorded (state : State Memory) : state.recorded.plain = state := rfl

end State

/-- Without the record, the first action does what the second one does. -/
def Mirrors (recorded : Action (Recorded Memory) Result) (plain : Action Memory Result) : Prop :=
  ∀ state, plain state.plain = ((recorded state).1, (recorded state).2.plain)

namespace Mirrors

theorem pure (result : Result) :
    Mirrors (Pure.pure result : Action (Recorded Memory) Result) (Pure.pure result) :=
  fun _ => rfl

theorem throw (failure : Failure) :
    Mirrors (MonadExcept.throw failure : Action (Recorded Memory) Result)
      (MonadExcept.throw failure) :=
  fun _ => rfl

theorem bind {recorded : Action (Recorded Memory) Result} {plain : Action Memory Result}
    {recordedNext : Result → Action (Recorded Memory) Next}
    {plainNext : Result → Action Memory Next}
    (first : Mirrors recorded plain)
    (second : ∀ result, Mirrors (recordedNext result) (plainNext result)) :
    Mirrors (recorded >>= recordedNext) (plain >>= plainNext) := by
  intro state
  have mirrored := first state
  rcases done : recorded state with ⟨_ | result, between⟩ <;> rw [done] at mirrored
  · rw [Effect.bind_of_error done, Effect.bind_of_error mirrored]
  · rw [Effect.bind_of_ok done, Effect.bind_of_ok mirrored]
    exact second result between

theorem throw_bind (failure : Failure) {recordedNext : Result → Action (Recorded Memory) Next}
    {plainNext : Result → Action Memory Next} :
    Mirrors (MonadExcept.throw failure >>= recordedNext)
      (MonadExcept.throw failure >>= plainNext) :=
  fun _ => rfl

theorem get {recordedNext : State (Recorded Memory) → Action (Recorded Memory) Next}
    {plainNext : State Memory → Action Memory Next}
    (next : ∀ state, Mirrors (recordedNext state) (plainNext state.plain)) :
    Mirrors (MonadState.get >>= recordedNext) (MonadState.get >>= plainNext) :=
  fun state => next state state

theorem update {recorded : State (Recorded Memory) → State (Recorded Memory)}
    {plain : State Memory → State Memory}
    (same : ∀ state, (recorded state).plain = plain state.plain) :
    Mirrors (modify recorded) (modify plain) :=
  fun state => Prod.ext rfl (same state).symm

theorem happen (event : Event) :
    Mirrors (Run.happen event : Action (Recorded Memory) Unit) (Run.happen event) :=
  update fun _ => rfl

theorem tell (notice : Notice) :
    Mirrors (Run.tell notice : Action (Recorded Memory) Unit) (Run.tell notice) :=
  happen (.told notice)

theorem report (line : String) :
    Mirrors (Run.report line : Action (Recorded Memory) Unit) (Run.report line) :=
  tell (.progress line)

theorem call (exchange : Reply Result → Exchange) (request : Call Memory Result) :
    Mirrors (Run.call (request.recorded exchange)) (Run.call request) :=
  fun _ => rfl

theorem onDisk (task : Task Result) :
    Mirrors (Run.onDisk task : Action (Recorded Memory) Result) (Run.onDisk task) :=
  fun _ => rfl

end Mirrors

namespace Sandbox

variable (sandbox : Sandbox Memory)

theorem mirrors_writeSources (sources : List String) :
    Mirrors (sandbox.recorded.writeSources sources) (sandbox.writeSources sources) := by
  induction sources with
  | nil => exact .pure ()
  | cons text sources ih =>
      rw [writeSources, writeSources]
      refine .bind (.onDisk _) fun snippet => ?_
      dsimp only
      split
      next =>
        exact .bind (.report _) fun _ => .bind (.report _) fun _ =>
          .bind (.update fun _ => rfl) fun _ => ih
      next => exact .bind (.report _) fun _ => .bind (.update fun _ => rfl) fun _ => ih

theorem mirrors_compile : Mirrors sandbox.recorded.compile sandbox.compile := by
  rw [compile, compile]
  refine .get fun state => .bind (.report _) fun _ => .bind (.happen _) fun _ =>
    .bind (.call _ _) fun result => .bind (.report _) fun _ => ?_
  split
  next => exact .bind (.tell _) fun _ => .pure _
  next =>
    refine .get fun state => ?_
    rw [State.plain_session]
    cases state.session.entry with
    | none => exact .pure _
    | some entry => exact .pure _

theorem mirrors_removeOldLog : Mirrors sandbox.recorded.removeOldLog sandbox.removeOldLog := by
  rw [removeOldLog, removeOldLog]
  refine .bind (.onDisk _) fun present => ?_
  split
  next => exact .onDisk _
  next => exact .pure ()

theorem mirrors_executeEntry (entry : String) :
    Mirrors (sandbox.recorded.executeEntry entry) (sandbox.executeEntry entry) := by
  rw [executeEntry, executeEntry]
  refine .get fun state => .bind (.report _) fun _ => ?_
  simp only [recorded_workspace, State.plain_config]
  cases Classpath.join (Classpath.entries sandbox.workspace.classDir state.config.classLocations)
    with
  | error problem => exact .throw_bind _
  | ok classpath =>
      refine .bind (.report _) fun _ => .bind (.report _) fun _ =>
        .bind sandbox.mirrors_removeOldLog fun _ => .bind (.onDisk _) fun present =>
        .bind (.happen _) fun _ => .bind (.call _ _) fun result => .bind (.report _) fun _ => ?_
      split
      next => exact .bind (.tell _) fun _ => .pure _
      next => exact .pure _

theorem mirrors_ingest (logFile : String) :
    Mirrors (sandbox.recorded.ingest logFile) (sandbox.ingest logFile) :=
  .bind (.happen _) fun _ => .call _ _

theorem mirrors_forget : Mirrors sandbox.recorded.forget sandbox.forget :=
  .bind (.happen _) fun _ => .update fun _ => rfl

theorem mirrors_registerPaths : Mirrors sandbox.recorded.registerPaths sandbox.registerPaths :=
  .get fun _ => .bind (.update fun _ => rfl) fun _ => .pure _

theorem mirrors_synchronize : Mirrors sandbox.recorded.synchronize sandbox.synchronize := by
  rw [synchronize, synchronize]
  refine .bind sandbox.mirrors_registerPaths fun changed => ?_
  split
  next =>
    refine .get fun state => .bind (.happen _) fun _ => .bind (.call _ _) fun _ => ?_
    exact .bind sandbox.mirrors_forget fun _ => .bind (sandbox.mirrors_ingest _) fun _ => .pure _
  next =>
    exact .bind sandbox.mirrors_forget fun _ => .bind (sandbox.mirrors_ingest _) fun _ => .pure _

theorem mirrors_locate (className : String) :
    Mirrors (sandbox.recorded.locate className) (sandbox.locate className) := by
  rw [locate, locate]
  refine .bind (.report _) fun _ => .bind (.happen _) fun _ => .get fun state => ?_
  have known : sandbox.recorded.collaborators.lookup className state.surroundings =
      sandbox.collaborators.lookup className state.plain.surroundings := rfl
  rw [known]
  cases sandbox.collaborators.lookup className state.plain.surroundings with
  | none => exact .bind (.pure _) fun _ => .bind (.tell _) fun _ => .pure _
  | some found =>
      exact .bind (.report _) fun _ => .bind (.report _) fun _ => .bind (.pure _) fun _ =>
        .bind (.tell _) fun _ => .pure _

theorem mirrors_locateFirst : Mirrors sandbox.recorded.locateFirst sandbox.locateFirst := by
  rw [locateFirst, locateFirst]
  refine .get fun state => ?_
  rw [State.plain_session]
  cases state.session.first with
  | none => exact .bind (.tell _) fun _ => .pure _
  | some name => exact sandbox.mirrors_locate name

theorem mirrors_step (sources : List String) (stage : Stage) :
    Mirrors (sandbox.recorded.step sources stage) (sandbox.step sources stage) := by
  cases stage with
  | writing => exact .bind (sandbox.mirrors_writeSources sources) fun _ => .pure _
  | compiling => exact sandbox.mirrors_compile
  | executing =>
      rw [step, step]
      refine .get fun state => ?_
      rw [State.plain_session]
      cases state.session.entry with
      | none => exact .pure _
      | some entry => exact sandbox.mirrors_executeEntry entry
  | noEntryPoint => exact .bind (.report _) fun _ => .pure _
  | ingesting =>
      exact .bind sandbox.mirrors_synchronize fun _ => .bind (.report _) fun _ => .pure _
  | locating => exact .bind sandbox.mirrors_locateFirst fun _ => .pure _
  | done => exact .throw _
  | aborted => exact .throw _

theorem mirrors_runFrom (sources : List String) (stage : Stage) :
    Mirrors (sandbox.recorded.runFrom sources stage) (sandbox.runFrom sources stage) := by
  induction remaining : stage.remaining using Nat.strongRecOn generalizing stage with
  | ind remaining ih =>
      rw [runFrom, runFrom]
      refine .bind (.bind (.update fun _ => rfl) fun _ => sandbox.mirrors_step sources stage)
        fun outcome => ?_
      cases outcome with
      | advance next later => exact ih _ (remaining ▸ later) next rfl
      | stop outcome => exact .pure _

/-- A recorded run is the run itself with a record of its exchanges. -/
theorem mirrors_run (sources : List String) :
    Mirrors (sandbox.recorded.run sources) (sandbox.run sources) :=
  .bind (.onDisk _) fun _ => .bind (.update fun _ => rfl) fun _ =>
    sandbox.mirrors_runFrom sources .writing

/-- The exchanges of a run that begins in this state. -/
def runExchanges (sources : List String) (state : State Memory) : List Exchange :=
  (sandbox.recorded.run sources state.recorded).2.exchanges

end Sandbox

end SnippetSandbox.Run
