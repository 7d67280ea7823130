import SnippetSandbox.Proofs.FileSystem.Disk
import SnippetSandbox.Proofs.Run.Exchange
import SnippetSandbox.Proofs.Source.Snippet

/-!
# What one stage can do

Going through a stage of a recorded run has few possible courses.  Each of them
is listed here once, with the exchanges it puts on the record, the remarks it
makes to the audience, and what the stage leads to.  Everything about whole runs
follows from this list.
-/

namespace SnippetSandbox.Run

open FileSystem

variable {Memory Result Next : Type}

/-- The event is no mere progress and no call that is on the record. -/
def Event.isRemark : Event → Bool
  | .told (.progress _) => false
  | .told _ => true
  | .lookup _ => true
  | _ => false

namespace State

/-- The events that are remarks, in order. -/
def remarks (state : State Memory) : List Event :=
  state.events.filter Event.isRemark

def outside (state : State (Recorded Memory)) : Surroundings Memory :=
  state.surroundings.plain

/-- The state after a further event. -/
def noting (state : State Memory) (event : Event) : State Memory :=
  { state with events := state.events ++ [event] }

/-- The state after a further exchange, which led to these surroundings. -/
def answered (state : State (Recorded Memory)) (exchange : Exchange)
    (surroundings : Surroundings Memory) : State (Recorded Memory) :=
  { state with surroundings := state.surroundings.noting exchange surroundings }

@[simp] theorem session_noting (state : State Memory) (event : Event) :
    (state.noting event).session = state.session := rfl

@[simp] theorem config_noting (state : State Memory) (event : Event) :
    (state.noting event).config = state.config := rfl

@[simp] theorem surroundings_noting (state : State Memory) (event : Event) :
    (state.noting event).surroundings = state.surroundings := rfl

@[simp] theorem outside_noting (state : State (Recorded Memory)) (event : Event) :
    (state.noting event).outside = state.outside := rfl

@[simp] theorem session_answered (state : State (Recorded Memory)) (exchange : Exchange)
    (surroundings : Surroundings Memory) :
    (state.answered exchange surroundings).session = state.session := rfl

@[simp] theorem config_answered (state : State (Recorded Memory)) (exchange : Exchange)
    (surroundings : Surroundings Memory) :
    (state.answered exchange surroundings).config = state.config := rfl

@[simp] theorem outside_answered (state : State (Recorded Memory)) (exchange : Exchange)
    (surroundings : Surroundings Memory) :
    (state.answered exchange surroundings).outside = surroundings := rfl

end State

/-- The second state has these exchanges and remarks behind those of the first. -/
structure Adds (before after : State (Recorded Memory)) (exchanges : List Exchange)
    (remarks : List Event) : Prop where
  exchanges : after.exchanges = before.exchanges ++ exchanges
  remarks : after.remarks = before.remarks ++ remarks
  stages : after.stages = before.stages

namespace Adds

variable {before between after : State (Recorded Memory)}
variable {first second : List Exchange} {early late : List Event}

theorem refl (state : State (Recorded Memory)) : Adds state state [] [] :=
  ⟨(List.append_nil _).symm, (List.append_nil _).symm, rfl⟩

theorem trans (one : Adds before between first early) (two : Adds between after second late) :
    Adds before after (first ++ second) (early ++ late) where
  exchanges := by rw [two.exchanges, one.exchanges, List.append_assoc]
  remarks := by rw [two.remarks, one.remarks, List.append_assoc]
  stages := two.stages.trans one.stages

theorem remark (adds : Adds before after first early) {event : Event}
    (isRemark : event.isRemark = true := by rfl) :
    Adds before (after.noting event) first (early ++ [event]) where
  exchanges := adds.exchanges
  remarks := by
    have others := adds.remarks
    simp only [State.remarks, State.noting] at others ⊢
    rw [List.filter_append, others, List.filter_cons_of_pos isRemark, List.append_assoc]
    rfl
  stages := adds.stages

theorem event (adds : Adds before after first early) {event : Event}
    (noRemark : event.isRemark = false := by rfl) :
    Adds before (after.noting event) first early where
  exchanges := adds.exchanges
  remarks := by
    have others := adds.remarks
    simp only [State.remarks, State.noting] at others ⊢
    rw [List.filter_append, others, List.filter_cons_of_neg (by simp [noRemark])]
    simp
  stages := adds.stages

theorem exchange (adds : Adds before after first early) (exchange : Exchange)
    (surroundings : Surroundings Memory) :
    Adds before (after.answered exchange surroundings) (first ++ [exchange]) early where
  exchanges := by
    have others := adds.exchanges
    simp only [State.exchanges, State.answered, Surroundings.noting] at others ⊢
    rw [others, List.append_assoc]
  remarks := adds.remarks
  stages := adds.stages

end Adds

section Evaluation

variable (state : State Memory) (next : Unit → Action Memory Next)

theorem bind_happen (event : Event) :
    (happen event >>= next) state = next () (state.noting event) :=
  rfl

theorem bind_report (line : String) :
    (report line >>= next) state = next () (state.noting (.told (.progress line))) :=
  rfl

theorem bind_get (next : State Memory → Action Memory Next) :
    (get >>= next) state = next state state :=
  rfl

theorem bind_modify (change : State Memory → State Memory) :
    (modify change >>= next) state = next () (change state) :=
  rfl

theorem bind_ask (question : Disk → Result) (next : Result → Action Memory Next) :
    (onDisk (.ask question) >>= next) state = next (question state.surroundings.disk) state :=
  rfl

end Evaluation

/-- After a call on somebody else the action has failed with the call, or it has
gone on with the result. -/
theorem bind_call_done {state after : State (Recorded Memory)} {request : Call Memory Result}
    {exchange : Reply Result → Exchange} {next : Result → Action (Recorded Memory) Next}
    {answer : Except Failure Next}
    (done : (call (request.recorded exchange) >>= next) state = (answer, after)) :
    (∃ failure left, request state.outside = (.error failure, left) ∧ answer = .error failure ∧
      after = state.answered
        (exchange ⟨state.surroundings.disk, .error failure, left.disk⟩) left) ∨
    ∃ result left, request state.outside = (.ok result, left) ∧
      next result (state.answered
        (exchange ⟨state.surroundings.disk, .ok result, left.disk⟩) left) = (answer, after) := by
  have called : call (request.recorded exchange) state =
      ((request state.outside).1, state.answered
        (exchange ⟨state.surroundings.disk, (request state.outside).1,
          (request state.outside).2.disk⟩) (request state.outside).2) := rfl
  rcases answered : request state.outside with ⟨failure | result, left⟩ <;> rw [answered] at called
  · rw [Effect.bind_of_error called] at done
    cases done
    exact .inl ⟨failure, left, rfl, rfl, rfl⟩
  · rw [Effect.bind_of_ok called] at done
    exact .inr ⟨result, left, rfl, done⟩

/-- A configuration that registering changed is stored; these exchanges did it and
led to these surroundings. -/
inductive Storing (sandbox : Sandbox Memory) (registered : Config × Bool)
    (before : Surroundings Memory) : List Exchange → Surroundings Memory → Prop
  | needless (same : registered.2 = false) : Storing sandbox registered before [] before
  | stored {after : Surroundings Memory} (changed : registered.2 = true)
      (answered : sandbox.collaborators.save registered.1 before = (.ok (), after)) :
      Storing sandbox registered before
        [.save registered.1 ⟨before.disk, .ok (), after.disk⟩] after

/-- The exchanges by which the analysis forgets what it was shown and is shown the log. -/
def showing (sandbox : Sandbox Memory) (before : Surroundings Memory)
    (answer : Except Failure Unit) (after : Surroundings Memory) : List Exchange :=
  let between := sandbox.collaborators.forget before
  [.forget before.disk between.disk,
    .ingest sandbox.workspace.logFile ⟨between.disk, answer, after.disk⟩]

/-- What was stored in a stage that went on is the registered configuration. -/
theorem Storing.stores {sandbox : Sandbox Memory} {registered : Config × Bool}
    {before after : Surroundings Memory} {saves : List Exchange}
    (storing : Storing sandbox registered before saves after) : Stores registered.1 saves := by
  cases storing with
  | needless same => exact .needless
  | stored changed answered => exact .stored (.intro _ _)

theorem shows_showing (sandbox : Sandbox Memory) (before after : Surroundings Memory)
    (answer : Except Failure Unit) :
    Shows sandbox.workspace.logFile answer (showing sandbox before answer after) :=
  .intro (.intro _ _)

/-- How a synchronization goes. -/
inductive Synchronizes (sandbox : Sandbox Memory) (before after : State (Recorded Memory)) :
    Except Failure Bool → Prop
  | unsaved {registered : Config × Bool} {failure : Failure}
      (isRegistered : registered = register sandbox.workspace sandbox.archive before.config)
      (changed : registered.2 = true)
      (refused : sandbox.collaborators.save registered.1 before.outside =
        (.error failure, after.outside))
      (adds : Adds before after
        [.save registered.1 ⟨before.surroundings.disk, .error failure, after.surroundings.disk⟩]
        []) :
      Synchronizes sandbox before after (.error failure)
  | unshown {registered : Config × Bool} {saves : List Exchange} {stored : Surroundings Memory}
      {failure : Failure}
      (isRegistered : registered = register sandbox.workspace sandbox.archive before.config)
      (storing : Storing sandbox registered before.outside saves stored)
      (refused : sandbox.collaborators.ingest sandbox.workspace.logFile
        (sandbox.collaborators.forget stored) = (.error failure, after.outside))
      (adds : Adds before after
        (saves ++ showing sandbox stored (.error failure) after.outside) []) :
      Synchronizes sandbox before after (.error failure)
  | shown {registered : Config × Bool} {saves : List Exchange} {stored : Surroundings Memory}
      (isRegistered : registered = register sandbox.workspace sandbox.archive before.config)
      (storing : Storing sandbox registered before.outside saves stored)
      (answered : sandbox.collaborators.ingest sandbox.workspace.logFile
        (sandbox.collaborators.forget stored) = (.ok (), after.outside))
      (adds : Adds before after (saves ++ showing sandbox stored (.ok ()) after.outside) []) :
      Synchronizes sandbox before after (.ok registered.2)

theorem Synchronizes.event {sandbox : Sandbox Memory} {before after : State (Recorded Memory)}
    {answer : Except Failure Bool} (tries : Synchronizes sandbox before after answer)
    {event : Event} (noRemark : event.isRemark = false := by rfl) :
    Synchronizes sandbox before (after.noting event) answer := by
  cases tries with
  | unsaved isRegistered changed refused adds =>
      exact .unsaved isRegistered changed refused (adds.event noRemark)
  | unshown isRegistered storing refused adds =>
      exact .unshown isRegistered storing refused (adds.event noRemark)
  | shown isRegistered storing answered adds =>
      exact .shown isRegistered storing answered (adds.event noRemark)

/-- The exchange with the compiler about what was written. -/
def compiling (sandbox : Sandbox Memory) (before after : State (Recorded Memory))
    (answer : Except Failure Compilation) : Exchange :=
  .compile before.session.files sandbox.workspace.classDir
    ⟨before.surroundings.disk, answer, after.surroundings.disk⟩

/-- Where an execution looks for classes. -/
def places (sandbox : Sandbox Memory) (config : Config) : List String :=
  Classpath.entries sandbox.workspace.classDir config.classLocations

/-- The flags of an execution. -/
def flags (sandbox : Sandbox Memory) (config : Config) : List String :=
  Flags.build config sandbox.workspace.logFile

/-- The exchange with the executor, which was asked in these surroundings. -/
def executing (sandbox : Sandbox Memory) (before after : State (Recorded Memory))
    (entry : String) (asked : Surroundings Memory) (answer : Except Failure Execution) :
    Exchange :=
  .execute entry (places sandbox before.config) (flags sandbox before.config)
    ⟨asked.disk, answer, after.surroundings.disk⟩

/-- The member that the audience is led to: the first compiled one of a class. -/
def shownMember (sandbox : Sandbox Memory) (first : Option String)
    (surroundings : Surroundings Memory) : Option Analysis.Member := do
  let name ← first
  let found ← sandbox.collaborators.lookup name surroundings
  found.firstCompiled

/-- The remarks made when a member is looked for in the class of this name. -/
def lookingFor (first : Option String) (member : Option Analysis.Member) : List Event :=
  (first.map Event.lookup).toList ++ [.told (.navigation member)]

/-- How going through a stage goes, and what it leads to. -/
inductive Passes (sandbox : Sandbox Memory) (sources : List String)
    (before after : State (Recorded Memory)) : (stage : Stage) → Except Failure (Step stage) → Prop
  | unwritten {failure} (adds : Adds before after [] [])
      (config : after.config = before.config) :
      Passes sandbox sources before after .writing (.error failure)
  | written {later} (adds : Adds before after [] []) (config : after.config = before.config)
      (entry : after.session.entry.isSome =
        (before.session.entry.isSome || sources.any sandbox.collaborators.detect)) :
      Passes sandbox sources before after .writing (.ok (.advance .compiling later))
  | uncompiled {failure}
      (answered : sandbox.collaborators.compile before.session.files sandbox.workspace.classDir
        before.outside = (.error failure, after.outside))
      (adds : Adds before after [compiling sandbox before after (.error failure)] [])
      (config : after.config = before.config) :
      Passes sandbox sources before after .compiling (.error failure)
  | rejected {messages}
      (answered : sandbox.collaborators.compile before.session.files sandbox.workspace.classDir
        before.outside = (.ok ⟨false, messages⟩, after.outside))
      (adds : Adds before after [compiling sandbox before after (.ok ⟨false, messages⟩)]
        [.told (.trouble messages)])
      (config : after.config = before.config) :
      Passes sandbox sources before after .compiling (.ok (.stop (.compilationFailed messages)))
  | compiled {messages next later}
      (answered : sandbox.collaborators.compile before.session.files sandbox.workspace.classDir
        before.outside = (.ok ⟨true, messages⟩, after.outside))
      (adds : Adds before after [compiling sandbox before after (.ok ⟨true, messages⟩)] [])
      (config : after.config = before.config) (session : after.session = before.session)
      (leads : next = if before.session.entry.isSome then .executing else .noEntryPoint) :
      Passes sandbox sources before after .compiling (.ok (.advance next later))
  | pointless (adds : Adds before after [] []) (config : after.config = before.config) :
      Passes sandbox sources before after .noEntryPoint (.ok (.stop .noEntryPoint))
  | entryless {later} (entry : before.session.entry = none) (same : after = before) :
      Passes sandbox sources before after .executing (.ok (.advance .noEntryPoint later))
  | unlaunched {failure} (adds : Adds before after [] [])
      (config : after.config = before.config) :
      Passes sandbox sources before after .executing (.error failure)
  | unexecuted {entry asked failure}
      (fresh : asked.disk.pathExists sandbox.workspace.logFile = false)
      (answered : sandbox.collaborators.execute entry (places sandbox before.config)
        (flags sandbox before.config) asked = (.error failure, after.outside))
      (adds : Adds before after [executing sandbox before after entry asked (.error failure)] [])
      (config : after.config = before.config) :
      Passes sandbox sources before after .executing (.error failure)
  | failed {entry asked errors}
      (fresh : asked.disk.pathExists sandbox.workspace.logFile = false)
      (answered : sandbox.collaborators.execute entry (places sandbox before.config)
        (flags sandbox before.config) asked = (.ok ⟨false, errors⟩, after.outside))
      (adds : Adds before after [executing sandbox before after entry asked (.ok ⟨false, errors⟩)]
        [.told (.trouble errors)])
      (config : after.config = before.config) :
      Passes sandbox sources before after .executing (.ok (.stop (.executionFailed errors)))
  | executed {entry asked errors later}
      (fresh : asked.disk.pathExists sandbox.workspace.logFile = false)
      (answered : sandbox.collaborators.execute entry (places sandbox before.config)
        (flags sandbox before.config) asked = (.ok ⟨true, errors⟩, after.outside))
      (adds : Adds before after [executing sandbox before after entry asked (.ok ⟨true, errors⟩)]
        [])
      (config : after.config = before.config) (session : after.session = before.session) :
      Passes sandbox sources before after .executing (.ok (.advance .ingesting later))
  | unsynchronized {failure} (tries : Synchronizes sandbox before after (.error failure))
      (config : after.config =
        (register sandbox.workspace sandbox.archive before.config).1) :
      Passes sandbox sources before after .ingesting (.error failure)
  | synchronized {changed later} (tries : Synchronizes sandbox before after (.ok changed))
      (config : after.config =
        (register sandbox.workspace sandbox.archive before.config).1)
      (session : after.session = before.session) :
      Passes sandbox sources before after .ingesting (.ok (.advance .locating later))
  | located {member}
      (shown : member = shownMember sandbox before.session.first before.outside)
      (adds : Adds before after [] (lookingFor before.session.first member))
      (outside : after.outside = before.outside) (config : after.config = before.config)
      (session : after.session = before.session) :
      Passes sandbox sources before after .locating (.ok (.stop (.located member)))
  | finished {stage failure} (terminal : stage = .done ∨ stage = .aborted)
      (same : after = before) :
      Passes sandbox sources before after stage (.error failure)

def Quiet (before after : State (Recorded Memory)) : Prop :=
  Adds before after [] [] ∧ after.config = before.config

theorem Quiet.trans {first second third : State (Recorded Memory)} (one : Quiet first second)
    (two : Quiet second third) : Quiet first third :=
  ⟨one.1.trans two.1, two.2.trans one.2⟩

theorem quiet_report (line : String) :
    Effect.Relates Quiet (report line : Action (Recorded Memory) Unit) :=
  fun before => ⟨(Adds.refl before).event, rfl⟩

theorem quiet_onDisk (task : Task Result) :
    Effect.Relates Quiet (onDisk task : Action (Recorded Memory) Result) :=
  fun _ => ⟨⟨(List.append_nil _).symm, (List.append_nil _).symm, rfl⟩, rfl⟩

theorem isEntry_write {sourceDir : String} {detector : Detector} {text : String}
    {before after : Disk} {snippet : Snippet}
    (written : Snippet.write sourceDir detector text before = (.ok snippet, after)) :
    snippet.isEntry = detector text := by
  obtain ⟨named, -⟩ := Snippet.write_done written
  exact (Snippet.ofText_done named).2.1

/-- What a task on the disk answers in a run is its answer on the disk. -/
theorem onDisk_ok {task : Task Result} {before after : State Memory} {result : Result}
    (done : onDisk task before = (.ok result, after)) :
    task before.surroundings.disk = (.ok result, after.surroundings.disk) ∧
      after.session = before.session := by
  obtain ⟨answered, rfl⟩ := Prod.mk.inj done
  exact ⟨Prod.ext answered rfl, rfl⟩

theorem onDisk_of_done {task : Task Result} {state : State Memory}
    {answer : Except Failure Result} {left : Disk}
    (done : task state.surroundings.disk = (answer, left)) : onDisk task state =
      (answer, { state with surroundings := { state.surroundings with disk := left } }) := by
  rw [onDisk, call, Call.ofTask, done]

section Stages

variable (sandbox : Sandbox Memory) (before : State (Recorded Memory))

theorem quiet_writeSources (sources : List String) :
    Effect.Relates Quiet (sandbox.recorded.writeSources sources) := by
  induction sources with
  | nil => exact fun before => ⟨Adds.refl before, rfl⟩
  | cons text sources ih =>
      have records (snippet : Snippet) : Effect.Relates Quiet
          (modify fun state => { state with session := state.session.record snippet } :
            Action (Recorded Memory) Unit) :=
        fun before => ⟨⟨(List.append_nil _).symm, (List.append_nil _).symm, rfl⟩, rfl⟩
      rw [Sandbox.writeSources]
      refine .bind .trans (quiet_onDisk _) fun snippet => ?_
      dsimp only
      split
      next =>
        exact .bind .trans (quiet_report _) fun _ => .bind .trans (quiet_report _) fun _ =>
          .bind .trans (records snippet) fun _ => ih
      next =>
        exact .bind .trans (quiet_report _) fun _ => .bind .trans (records snippet) fun _ => ih

/-- Written sources leave an entry point when the detector accepts one of them. -/
theorem entry_writeSources {sources : List String} {before after : State (Recorded Memory)}
    (written : sandbox.recorded.writeSources sources before = (.ok (), after)) :
    after.session.entry.isSome =
      (before.session.entry.isSome || sources.any sandbox.collaborators.detect) := by
  induction sources generalizing before with
  | nil =>
      cases written
      simp
  | cons text sources ih =>
      rw [Sandbox.writeSources] at written
      obtain ⟨snippet, between, done, written⟩ := Effect.bind_ok written
      obtain ⟨done, session⟩ := onDisk_ok done
      have isEntry := isEntry_write done
      have rest (state : State (Recorded Memory)) (kept : state.session = before.session)
          (written : sandbox.recorded.writeSources sources
            { state with session := state.session.record snippet } = (.ok (), after)) :
          after.session.entry.isSome = (before.session.entry.isSome ||
            (text :: sources).any sandbox.collaborators.detect) := by
        have sameDetector : sandbox.recorded.collaborators.detect =
            sandbox.collaborators.detect := rfl
        rw [ih written, Session.record, kept, isEntry, List.any_cons, sameDetector]
        cases sandbox.collaborators.detect text <;> simp
      dsimp only at written
      split at written
      next =>
        rw [bind_report, bind_report, bind_modify] at written
        exact rest ((between.noting _).noting _) session written
      next =>
        rw [bind_report, bind_modify] at written
        exact rest (between.noting _) session written

theorem quiet_removeOldLog : Effect.Relates Quiet sandbox.recorded.removeOldLog := by
  rw [Sandbox.removeOldLog]
  refine .bind .trans (quiet_onDisk _) fun present => ?_
  split
  next => exact quiet_onDisk _
  next => exact fun before => ⟨Adds.refl before, rfl⟩

theorem session_removeOldLog :
    Effect.Relates (fun before after => after.session = before.session)
      sandbox.recorded.removeOldLog := by
  rw [Sandbox.removeOldLog]
  refine .bind (fun one two => two.trans one) (fun _ => rfl) fun present => ?_
  split <;> exact fun _ => rfl

theorem pathExists_removeOldLog {before after : State (Recorded Memory)}
    (removed : sandbox.recorded.removeOldLog before = (.ok (), after)) :
    after.surroundings.disk.pathExists sandbox.workspace.logFile = false := by
  rw [Sandbox.removeOldLog] at removed
  obtain ⟨present, between, asked, removed⟩ := Effect.bind_ok removed
  obtain ⟨asked, -⟩ := onDisk_ok asked
  split at removed
  next =>
    obtain ⟨removed, -⟩ := onDisk_ok removed
    exact pathExists_removeFile (reportedFor_ok removed)
  next absent =>
    cases removed
    obtain ⟨answered, same⟩ := Prod.mk.inj asked
    cases answered
    rw [← same]
    simpa using absent

variable {sandbox : Sandbox Memory} {sources : List String}
variable {before after : State (Recorded Memory)}

theorem passes_compile {answer : Except Failure (Step .compiling)}
    (done : sandbox.recorded.compile before = (answer, after)) :
    Passes sandbox sources before after .compiling answer := by
  rw [Sandbox.compile, bind_get, bind_report, bind_happen] at done
  rcases bind_call_done done with
    ⟨failure, left, answered, rfl, rfl⟩ | ⟨result, left, answered, done⟩
  · exact .uncompiled answered ((Adds.refl before).event.event.exchange _ _) rfl
  · rw [bind_report] at done
    obtain ⟨success, messages⟩ := result
    cases success with
    | false =>
        cases done
        exact .rejected answered ((Adds.refl before).event.event.exchange _ _).event.remark rfl
    | true =>
        rw [if_neg (by simp), bind_get] at done
        simp only [State.session_noting, State.session_answered] at done
        cases entry : before.session.entry with
        | some name =>
            rw [entry] at done
            cases done
            exact .compiled answered ((Adds.refl before).event.event.exchange _ _).event rfl rfl
              (by rw [entry]; rfl)
        | none =>
            rw [entry] at done
            cases done
            exact .compiled answered ((Adds.refl before).event.event.exchange _ _).event rfl rfl
              (by rw [entry]; rfl)

theorem passes_executeEntry {entry : String} {answer : Except Failure (Step .executing)}
    (done : sandbox.recorded.executeEntry entry before = (answer, after)) :
    Passes sandbox sources before after .executing answer := by
  rw [Sandbox.executeEntry, bind_get, bind_report] at done
  cases joined : Classpath.join (places sandbox before.config) with
  | error problem =>
      change Classpath.join (Classpath.entries sandbox.recorded.workspace.classDir _) = _ at joined
      rw [joined] at done
      cases done
      exact .unlaunched (Adds.refl before).event rfl
  | ok classpath =>
      change Classpath.join (Classpath.entries sandbox.recorded.workspace.classDir _) = _ at joined
      rw [joined] at done
      dsimp only at done
      rw [bind_report, bind_report] at done
      rcases Effect.bind_done done with ⟨failure, removal, rfl⟩ | ⟨_, removed, removal, done⟩
      · obtain ⟨adds, config⟩ := (quiet_removeOldLog sandbox).states removal
        exact .unlaunched ((Adds.refl before).event.event.event.trans adds) config
      · obtain ⟨adds, config⟩ := (quiet_removeOldLog sandbox).states removal
        have session := (session_removeOldLog sandbox).states removal
        have fresh : removed.outside.disk.pathExists sandbox.workspace.logFile = false :=
          pathExists_removeOldLog sandbox removal
        replace adds : Adds before removed [] [] :=
          (Adds.refl before).event.event.event.trans adds
        rw [bind_ask, bind_happen] at done
        rcases bind_call_done done with
          ⟨failure, left, answered, rfl, rfl⟩ | ⟨result, left, answered, done⟩
        · exact .unexecuted fresh answered (adds.event.exchange _ _) config
        · rw [bind_report] at done
          obtain ⟨success, errors⟩ := result
          cases success with
          | false =>
              cases done
              exact .failed fresh answered (adds.event.exchange _ _).event.remark config
          | true =>
              rw [if_neg (by simp)] at done
              cases done
              exact .executed fresh answered (adds.event.exchange _ _).event config session

theorem bind_forget (state : State (Recorded Memory))
    (next : Unit → Action (Recorded Memory) Next) :
    (sandbox.recorded.forget >>= next) state =
      next () ((state.noting .forget).answered
        (.forget state.surroundings.disk (sandbox.collaborators.forget state.outside).disk)
        (sandbox.collaborators.forget state.outside)) :=
  rfl

theorem bind_ingest (logFile : String) (state : State (Recorded Memory))
    (next : Unit → Action (Recorded Memory) Next) :
    (sandbox.recorded.ingest logFile >>= next) state =
      (call (sandbox.recorded.collaborators.ingest logFile) >>= next)
        (state.noting (.ingest logFile)) :=
  rfl

/-- Once the configuration is stored, a synchronization succeeds or fails with the
analysis that is shown the log. -/
theorem synchronizes_stored {registered : Config × Bool} {saves : List Exchange}
    {stored : State (Recorded Memory)} {answer : Except Failure Bool}
    (isRegistered : registered = register sandbox.workspace sandbox.archive before.config)
    (storing : Storing sandbox registered before.outside saves stored.outside)
    (adds : Adds before stored saves [])
    (done : (do
        sandbox.recorded.forget
        sandbox.recorded.ingest sandbox.workspace.logFile
        return registered.2) stored = (answer, after)) :
    Synchronizes sandbox before after answer ∧ after.config = stored.config ∧
      after.session = stored.session := by
  rw [bind_forget, bind_ingest] at done
  rcases bind_call_done done with
    ⟨failure, left, refused, rfl, rfl⟩ | ⟨_, left, answered, done⟩
  · refine ⟨.unshown isRegistered storing refused ?_, rfl, rfl⟩
    exact adds.trans (((Adds.refl stored).event.exchange _ _).event.exchange _ _)
  · cases done
    refine ⟨.shown isRegistered storing answered ?_, rfl, rfl⟩
    exact adds.trans (((Adds.refl stored).event.exchange _ _).event.exchange _ _)

theorem synchronizes_done {answer : Except Failure Bool}
    (done : sandbox.recorded.synchronize before = (answer, after)) :
    Synchronizes sandbox before after answer ∧
      after.config = (register sandbox.workspace sandbox.archive before.config).1 ∧
      after.session = before.session := by
  rw [Sandbox.synchronize] at done
  rcases registered : register sandbox.workspace sandbox.archive before.config with
    ⟨config, changed⟩
  have registers : sandbox.recorded.registerPaths before =
      (.ok changed, { before with config }) := by
    change register sandbox.recorded.workspace sandbox.recorded.archive _ = _ at registered
    rw [Sandbox.registerPaths, bind_get, registered]
    rfl
  have start : Adds before { before with config } [] [] :=
    ⟨(List.append_nil _).symm, (List.append_nil _).symm, rfl⟩
  rw [Effect.bind_of_ok registers] at done
  cases changed with
  | false =>
      rw [if_neg (by decide)] at done
      refine synchronizes_stored registered.symm ?_ start done
      exact .needless rfl
  | true =>
      rw [if_pos rfl, bind_get, bind_happen] at done
      rcases bind_call_done done with
        ⟨failure, left, answered, rfl, rfl⟩ | ⟨_, left, answered, done⟩
      · exact ⟨.unsaved registered.symm rfl answered (start.event.exchange _ _), rfl, rfl⟩
      · refine synchronizes_stored registered.symm ?_ (start.event.exchange _ _) done
        exact .stored rfl answered

theorem locateFirst_done {answer : Except Failure (Option Analysis.Member)}
    (done : sandbox.recorded.locateFirst before = (answer, after)) :
    answer = .ok (shownMember sandbox before.session.first before.outside) ∧
      Adds before after [] (lookingFor before.session.first
        (shownMember sandbox before.session.first before.outside)) ∧
      after.outside = before.outside ∧ after.config = before.config ∧
      after.session = before.session := by
  rw [Sandbox.locateFirst, bind_get] at done
  cases first : before.session.first with
  | none =>
      rw [first] at done
      cases done
      exact ⟨rfl, (Adds.refl before).remark, rfl, rfl, rfl⟩
  | some name =>
      rw [first] at done
      dsimp only at done
      rw [Sandbox.locate, bind_report, bind_happen, bind_get] at done
      simp only [State.surroundings_noting] at done
      cases found : sandbox.recorded.collaborators.lookup name before.surroundings with
      | none =>
          rw [found] at done
          cases done
          have noMember : shownMember sandbox (some name) before.outside = none := by
            change sandbox.collaborators.lookup name before.outside = none at found
            simp [shownMember, found]
          rw [noMember]
          exact ⟨rfl, (Adds.refl before).event.remark.remark, rfl, rfl, rfl⟩
      | some shown =>
          rw [found] at done
          cases done
          have member : shownMember sandbox (some name) before.outside = shown.firstCompiled := by
            change sandbox.collaborators.lookup name before.outside = some shown at found
            simp [shownMember, found]
          rw [member]
          exact ⟨rfl, (Adds.refl before).event.remark.event.event.remark, rfl, rfl, rfl⟩

/-- Going through a stage goes in one of the listed ways. -/
theorem passes_step {stage : Stage} {answer : Except Failure (Step stage)}
    (done : sandbox.recorded.step sources stage before = (answer, after)) :
    Passes sandbox sources before after stage answer := by
  cases stage with
  | writing =>
      rcases Effect.bind_done done with ⟨failure, written, rfl⟩ | ⟨_, between, written, done⟩
      · obtain ⟨adds, config⟩ := (quiet_writeSources sandbox sources).states written
        exact .unwritten adds config
      · obtain ⟨adds, config⟩ := (quiet_writeSources sandbox sources).states written
        cases done
        exact .written adds config (entry_writeSources sandbox written)
  | compiling => exact passes_compile done
  | executing =>
      rw [Sandbox.step, bind_get] at done
      cases entry : before.session.entry with
      | none =>
          rw [entry] at done
          cases done
          exact .entryless entry rfl
      | some name =>
          rw [entry] at done
          exact passes_executeEntry done
  | noEntryPoint =>
      cases done
      exact .pointless (Adds.refl before).event rfl
  | ingesting =>
      rcases Effect.bind_done done with ⟨failure, tried, rfl⟩ | ⟨changed, between, tried, done⟩
      · obtain ⟨tries, config, -⟩ := synchronizes_done tried
        exact .unsynchronized tries config
      · obtain ⟨tries, config, session⟩ := synchronizes_done tried
        cases done
        exact .synchronized tries.event config session
  | locating =>
      rcases Effect.bind_done done with ⟨failure, looked, rfl⟩ | ⟨member, between, looked, done⟩
      · obtain ⟨impossible, -⟩ := locateFirst_done looked
        cases impossible
      · obtain ⟨same, adds, outside, config, session⟩ := locateFirst_done looked
        cases done
        cases same
        exact .located rfl adds outside config session
  | done =>
      cases done
      exact .finished (.inl rfl) rfl
  | aborted =>
      cases done
      exact .finished (.inr rfl) rfl

end Stages

end SnippetSandbox.Run
