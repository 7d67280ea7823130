import SnippetSandbox.Proofs.Console.Progress

/-!
# Steps that succeed

What a stage, and a step of a run, leads to when everybody it calls on does what is asked.
-/

namespace SnippetSandbox

open FileSystem

namespace Run

variable {Memory : Type} {sandbox : Sandbox Memory} {state : State Memory}
variable {sources : List String}

theorem bind_call_of_ok {Result Next : Type} {request : Call Memory Result} {result : Result}
    {before after : Surroundings Memory} {next : Result → Action Memory Next}
    (answered : request before = (.ok result, after)) (same : state.surroundings = before) :
    (call request >>= next) state = next result { state with surroundings := after } := by
  refine Effect.bind_of_ok ?_
  rw [call, same, answered]

theorem ofTask_of_ok {Result : Type} {task : SnippetSandbox.Task Result} {result : Result}
    {surroundings : Surroundings Memory} {after : Disk}
    (done : task surroundings.disk = (.ok result, after)) :
    Call.ofTask task surroundings = (.ok result, { surroundings with disk := after }) := by
  rw [Call.ofTask, done]

theorem step_writing {text : String} {snippet : Snippet} {after : Disk}
    (wrote : Snippet.write sandbox.workspace.sourceDir sandbox.collaborators.detect text
      state.surroundings.disk = (.ok snippet, after)) : ∃ fewer later,
    sandbox.step [text] .writing state = (.ok (.advance .compiling fewer), later) ∧
      later.surroundings = { state.surroundings with disk := after } ∧
      later.config = state.config ∧ later.session = state.session.record snippet := by
  have went : sandbox.writeSources [text] state = _ := bind_call_of_ok (ofTask_of_ok wrote) rfl
  cases isEntry : snippet.isEntry
  all_goals
    rw [isEntry] at went
    exact ⟨_, _, Effect.bind_of_ok went, rfl, rfl, rfl⟩

theorem step_compiling {messages entry : String} {after : Surroundings Memory}
    (isEntry : state.session.entry = some entry)
    (compiled : sandbox.collaborators.compile state.session.files sandbox.workspace.classDir
      state.surroundings = (.ok ⟨true, messages⟩, after)) : ∃ fewer later,
    sandbox.step sources .compiling state = (.ok (.advance .executing fewer), later) ∧
      later.surroundings = after ∧ later.config = state.config ∧
      later.session = state.session := by
  rw [Sandbox.step, Sandbox.compile, bind_get, bind_report, bind_happen, bind_call_of_ok compiled]
  · rw [bind_report, if_neg (by simp), bind_get]
    dsimp only [State.noting]
    rw [isEntry]
    exact ⟨_, _, rfl, rfl, rfl, rfl⟩
  · rfl

theorem removeOldLog_of_ok {fresh : Disk}
    (isOld : state.surroundings.disk.pathExists sandbox.workspace.logFile = true)
    (removed : removeFile sandbox.workspace.logFile state.surroundings.disk = (.ok (), fresh)) :
    sandbox.removeOldLog state = (.ok (),
      { state with surroundings := { state.surroundings with disk := fresh } }) := by
  rw [Sandbox.removeOldLog, bind_ask, if_pos isOld, onDisk, call, Call.ofTask,
    reportedFor_of_ok removed]

theorem step_executing {entry classpath errors : String} {fresh : Disk}
    {after : Surroundings Memory} (isEntry : state.session.entry = some entry)
    (joined : Classpath.join (places sandbox state.config) = .ok classpath)
    (isOld : state.surroundings.disk.pathExists sandbox.workspace.logFile = true)
    (removed : removeFile sandbox.workspace.logFile state.surroundings.disk = (.ok (), fresh))
    (executed : sandbox.collaborators.execute entry (places sandbox state.config)
      (flags sandbox state.config) { state.surroundings with disk := fresh } =
        (.ok ⟨true, errors⟩, after)) : ∃ fewer later,
    sandbox.step sources .executing state = (.ok (.advance .ingesting fewer), later) ∧
      later.surroundings = after ∧ later.config = state.config ∧
      later.session = state.session := by
  rw [places] at joined executed
  rw [flags] at executed
  rw [Sandbox.step, bind_get, isEntry]
  dsimp only
  rw [Sandbox.executeEntry, bind_get, bind_report, joined]
  dsimp only
  rw [bind_report, bind_report,
    Effect.bind_of_ok
      (@removeOldLog_of_ok _ _ (((state.noting _).noting _).noting _) _ isOld removed),
    bind_ask, bind_happen, bind_call_of_ok executed]
  · rw [bind_report, if_neg (by simp)]
    exact ⟨_, _, rfl, rfl, rfl, rfl⟩
  · rfl

theorem step_ingesting {registered : Config} {stored after : Surroundings Memory}
    (changes : register sandbox.workspace sandbox.archive state.config = (registered, true))
    (saved : sandbox.collaborators.save registered state.surroundings = (.ok (), stored))
    (shown : sandbox.collaborators.ingest sandbox.workspace.logFile
      (sandbox.collaborators.forget stored) = (.ok (), after)) : ∃ fewer later,
    sandbox.step sources .ingesting state = (.ok (.advance .locating fewer), later) ∧
      later.surroundings = after := by
  have registers : sandbox.registerPaths state =
      (.ok true, { state with config := registered }) := by
    rw [Sandbox.registerPaths, bind_get, changes]
    rfl
  have saves : ∃ later, sandbox.synchronize state = (.ok true, later) ∧
      later.surroundings = after := by
    rw [Sandbox.synchronize, Effect.bind_of_ok registers]
    dsimp only
    rw [if_pos rfl, bind_get, bind_happen, bind_call_of_ok saved]
    · rw [Sandbox.forget, bind_assoc, bind_happen, bind_modify, Sandbox.ingest, bind_assoc,
        bind_happen, bind_call_of_ok shown]
      · exact ⟨_, rfl, rfl⟩
      · rfl
    · rfl
  obtain ⟨later, synchronized, rfl⟩ := saves
  exact ⟨_, _, Effect.bind_of_ok synchronized, rfl⟩

end Run

namespace Console.Progress

open Workspace Run Analysis

section Advances

variable {setting : Setting} {files : List String} {key : FileKey} {preparation : Preparation}
variable {known : State Gauge} {before after : Disk}

theorem next_of_step {stage next : Stage} {fewer : next.remaining < stage.remaining}
    {later : State Gauge}
    (stepped : (sandbox setting preparation).step preparation.sources stage
      { known.on before with stages := known.stages ++ [stage] } =
        (.ok (.advance next fewer), later)) :
    (running key preparation stage known).next setting files before =
      (running key preparation next later, later.surroundings.disk) := by
  have entered : (sandbox setting preparation).enter preparation.sources stage (known.on before) =
      (.ok (.advance next fewer), later) := stepped
  rw [Progress.next, entered]

theorem next_locked {fresh : Bool}
    (ready : setting.workspace.ensureReady setting.seed before = (.ok fresh, after)) :
    (locked key preparation).next setting files before =
      (running key preparation .writing { begin preparation after with stages := [] }, after) := by
  have readied : onDisk (setting.workspace.ensureReady setting.seed) (begin preparation before) =
      (.ok fresh, begin preparation after) := by
    rw [onDisk, call, Call.ofTask, begin, ready]
    rfl
  rw [next, readied]
  rfl

theorem next_writing {text : String} {snippet : Snippet}
    (only : preparation.sources = [text])
    (wrote : Snippet.write setting.workspace.sourceDir Source.hasMainSignature text before =
      (.ok snippet, after)) : ∃ later,
    (running key preparation .writing known).next setting files before =
        (running key preparation .compiling later, after) ∧
      later.config = known.config ∧ later.session = known.session.record snippet := by
  obtain ⟨fewer, later, stepped, surroundings, config, session⟩ :=
    @step_writing _ (sandbox setting preparation)
      { known.on before with stages := known.stages ++ [.writing] } text _ _ wrote
  rw [← only] at stepped
  refine ⟨later, ?_, config, session⟩
  rw [next_of_step stepped, surroundings]

theorem next_compiling {entry messages : String} (isEntry : known.session.entry = some entry)
    (compiled : compileWith setting.machine preparation.toolchain
      preparation.config.compileTimeout known.session.files setting.workspace.classDir before =
        (.ok ⟨true, messages⟩, after)) : ∃ later,
    (running key preparation .compiling known).next setting files before =
        (running key preparation .executing later, after) ∧
      later.config = known.config ∧ later.session = known.session := by
  let noted : State Gauge := { known.on before with stages := known.stages ++ [.compiling] }
  have answered : (sandbox setting preparation).collaborators.compile noted.session.files
      setting.workspace.classDir noted.surroundings =
        (.ok ⟨true, messages⟩, { noted.surroundings with disk := after }) :=
    @ofTask_of_ok _ _ (compileWith setting.machine preparation.toolchain
      preparation.config.compileTimeout known.session.files setting.workspace.classDir) _
      noted.surroundings _ compiled
  obtain ⟨fewer, later, stepped, surroundings, config, session⟩ :=
    @step_compiling _ _ noted preparation.sources _ _ _ isEntry answered
  refine ⟨later, ?_, config, session⟩
  rw [next_of_step stepped, surroundings]

theorem next_executing {entry classpath errors : String} {fresh : Disk}
    (isEntry : known.session.entry = some entry)
    (joined : Classpath.join (places (sandbox setting preparation) known.config) = .ok classpath)
    (isOld : before.pathExists setting.workspace.logFile = true)
    (removed : removeFile setting.workspace.logFile before = (.ok (), fresh))
    (executed : executeWith setting.machine preparation.toolchain
      preparation.config.executeTimeout entry (places (sandbox setting preparation) known.config)
      (flags (sandbox setting preparation) known.config) fresh = (.ok ⟨true, errors⟩, after)) :
    ∃ later, (running key preparation .executing known).next setting files before =
        (running key preparation .ingesting later, after) ∧
      later.config = known.config ∧ later.session = known.session := by
  let noted : State Gauge := { known.on before with stages := known.stages ++ [.executing] }
  have answered : (sandbox setting preparation).collaborators.execute entry
      (places (sandbox setting preparation) noted.config)
      (flags (sandbox setting preparation) noted.config)
      { noted.surroundings with disk := fresh } =
        (.ok ⟨true, errors⟩, { noted.surroundings with disk := after }) :=
    @ofTask_of_ok _ _ (executeWith setting.machine preparation.toolchain
      preparation.config.executeTimeout entry (places (sandbox setting preparation) known.config)
      (flags (sandbox setting preparation) known.config)) _
      { noted.surroundings with disk := fresh } _ executed
  obtain ⟨fewer, later, stepped, surroundings, config, session⟩ :=
    @step_executing _ _ noted preparation.sources _ _ _ _ _ isEntry joined isOld removed answered
  refine ⟨later, ?_, config, session⟩
  rw [next_of_step stepped, surroundings]

theorem next_ingesting {registered : Config} {log : Nat}
    (changes : register setting.workspace preparation.archive known.config = (registered, true))
    (saved : registered.save setting.configFile before = (.ok (), after))
    (sized : after.size setting.workspace.logFile = .ok log) : ∃ later,
    (running key preparation .ingesting known).next setting files before =
      (running key preparation .locating later, after) := by
  let noted : State Gauge := { known.on before with stages := known.stages ++ [.ingesting] }
  have answered : (sandbox setting preparation).collaborators.save registered
      noted.surroundings = (.ok (), { noted.surroundings with disk := after }) :=
    @ofTask_of_ok _ _ (registered.save _) _ noted.surroundings _ saved
  have shown : (sandbox setting preparation).collaborators.ingest setting.workspace.logFile
      ((sandbox setting preparation).collaborators.forget
        { noted.surroundings with disk := after }) = (.ok (), ⟨after, ⟨log⟩⟩) := by
    have gauged : Gauge.ingest {} setting.workspace.logFile after = (.ok (), ⟨log⟩) := by
      rw [Gauge.ingest, sized]
    change ((Gauge.ingest {} setting.workspace.logFile after).1,
      (⟨after, (Gauge.ingest {} setting.workspace.logFile after).2⟩ : Surroundings Gauge)) = _
    rw [gauged]
  obtain ⟨fewer, later, stepped, surroundings⟩ :=
    @step_ingesting _ _ noted preparation.sources _ _ _ changes answered shown
  refine ⟨later, ?_⟩
  rw [next_of_step stepped, surroundings]

theorem next_locating : ∃ member later, later.surroundings.disk = before ∧
    (running key preparation .locating known).next setting files before =
      (ending key ⟨preparation, .ok (.located member), later⟩, before) := by
  rcases entered : (sandbox setting preparation).enter preparation.sources .locating
    (known.on before) with ⟨answer, after⟩
  obtain ⟨first, last, -, sameDisk, rfl, passes⟩ := passes_enter entered
  cases passes with
  | @located member shown adds outside config session =>
      have same : last.plain.surroundings.disk = before :=
        (congrArg Surroundings.disk outside).trans sameDisk
      refine ⟨member, last.plain, same, ?_⟩
      rw [next, entered]
      dsimp only
      rw [same]
  | finished terminal same => rcases terminal with isDone | isAborted <;> contradiction

end Advances

end Console.Progress

end SnippetSandbox
