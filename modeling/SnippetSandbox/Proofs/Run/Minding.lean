import SnippetSandbox.Proofs.Workspace.Sharing
import SnippetSandbox.Run.Sandbox

/-!
# Runs on a shared workspace

A run writes sources, starts tools, removes an old log and saves, all of it in pieces that
leave every lock good, provided that those whom it calls on do so.  What a run knows for
itself, its session and its events, is not on the disk and nobody else's business.
-/

namespace SnippetSandbox.Run

open FileSystem Workspace

section Minding

variable {Memory Result Next : Type} {rule : Rule}

/-- What a run knows, on another disk. -/
def State.on (state : State Memory) (disk : Disk) : State Memory :=
  { state with surroundings := { state.surroundings with disk } }

/-- A part of a run as work on the disk, which ends with what the run knows then. -/
def Action.from (action : Action Memory Result) (state : State Memory) (disk : Disk) :
    (Except Failure Result × State Memory) × Disk :=
  (action (state.on disk), (action (state.on disk)).2.surroundings.disk)

/-- Whatever a run knows, this part of it can be cut into pieces that keep to the rule. -/
def Minds (rule : Rule) (action : Action Memory Result) : Prop :=
  ∀ state, rule.Obeys (action.from state)

namespace Minds

theorem bind {action : Action Memory Result} {next : Result → Action Memory Next}
    (minds : Minds rule action) (goesOn : ∀ result, Minds rule (next result)) :
    Minds rule (action >>= next) := by
  intro state
  have further (answer : Except Failure Result × State Memory) :
      rule.Obeys (Action.from
        (ExceptT.bindCont next answer.1 : StateM (State Memory) (Except Failure Next))
          answer.2) := by
    rcases answer with ⟨failure | result, known⟩
    · exact Rule.ask _
    · exact goesOn result known
  exact ((minds state).goOn fun answer _ => further answer :)

/-- A part of a run that leaves the disk alone is a question at most. -/
theorem quiet {action : Action Memory Result}
    (leaves : ∀ state, (action state).2.surroundings.disk = state.surroundings.disk) :
    Minds rule action := by
  intro state
  have asks : action.from state = fun disk => (action (state.on disk), disk) := by
    funext disk
    exact Prod.ext rfl (leaves (state.on disk))
  rw [asks]
  exact Rule.ask _

theorem pure (result : Result) : Minds rule (Pure.pure result : Action Memory Result) :=
  quiet fun _ => rfl

theorem get : Minds rule (MonadState.get : Action Memory (State Memory)) :=
  quiet fun _ => rfl

theorem report (line : String) : Minds rule (Run.report line : Action Memory Unit) :=
  quiet fun _ => rfl

theorem tell (notice : Notice) : Minds rule (Run.tell notice : Action Memory Unit) :=
  quiet fun _ => rfl

theorem happen (event : Event) : Minds rule (Run.happen event : Action Memory Unit) :=
  quiet fun _ => rfl

theorem throw (failure : Failure) :
    Minds rule (MonadExcept.throw failure : Action Memory Result) :=
  quiet fun _ => rfl

theorem throw_bind (failure : Failure) (next : Result → Action Memory Next) :
    Minds rule ((MonadExcept.throw failure : Action Memory Result) >>= next) :=
  quiet fun _ => rfl

theorem ofTask {task : Task Result} (obeys : rule.Obeys task) :
    Minds rule (call (.ofTask task) : Action Memory Result) := by
  intro state
  have further (answer : Except Failure Result) :
      rule.Obeys fun rest => ((answer, state.on rest), rest) :=
    Rule.ask _
  exact (obeys.goOn fun answer _ => further answer :)

theorem onDisk {task : Task Result} (obeys : rule.Obeys task) :
    Minds rule (Run.onDisk task : Action Memory Result) :=
  ofTask obeys

end Minds

/-- Those whom a run calls on keep to the rule. -/
structure Collaborators.Mind (rule : Rule) (collaborators : Collaborators Memory) : Prop where
  compile : ∀ files directory, Minds rule (call (collaborators.compile files directory))
  execute : ∀ entry places flags, Minds rule (call (collaborators.execute entry places flags))
  save : ∀ config, Minds rule (call (collaborators.save config))
  forget : ∀ surroundings, (collaborators.forget surroundings).disk = surroundings.disk
  ingest : ∀ logFile, Minds rule (call (collaborators.ingest logFile))

end Minding

section Stages

variable {Memory : Type} {root : String} {ground : Place} {back : List String}
variable {sandbox : Sandbox Memory}

theorem obeys_write (sourceDir : String) (detector : Detector) (text : String) :
    (sharing root ground back).Obeys (Snippet.write sourceDir detector text) := by
  rw [Snippet.write]
  split
  next => exact Rule.done _
  next =>
    refine .bind ((obeys_makeDirectories _).reportedFor _) fun _ => ?_
    exact .bind ((obeys_fill _ _ _).reportedFor _) fun _ => Rule.done _

theorem minds_writeSources (sources : List String) :
    Minds (sharing root ground back) (sandbox.writeSources sources) := by
  induction sources with
  | nil => exact .pure ()
  | cons text others ih =>
      have records (snippet : Snippet) : Minds (sharing root ground back) (do
          report ("Writing source file: " ++ snippet.name ++ ".java")
          modify fun state => { state with session := state.session.record snippet }
          sandbox.writeSources others : Action Memory Unit) :=
        .bind (.report _) fun _ => .bind (.quiet fun _ => rfl) fun _ => ih
      rw [Sandbox.writeSources]
      refine .bind (.onDisk (obeys_write _ _ _)) fun snippet => ?_
      split
      next => exact .bind (.report _) fun _ => records snippet
      next => exact records snippet

theorem minds_compile (mind : sandbox.collaborators.Mind (sharing root ground back)) :
    Minds (sharing root ground back) sandbox.compile := by
  rw [Sandbox.compile]
  refine .bind .get fun state => .bind (.report _) fun _ => .bind (.happen _) fun _ => ?_
  refine .bind (mind.compile _ _) fun result => .bind (.report _) fun _ => ?_
  split
  next => exact .bind (.tell _) fun _ => .pure _
  next =>
    refine .bind .get fun state => ?_
    split <;> exact .pure _

theorem minds_removeOldLog (inside : sandbox.workspace = .inside root) :
    Minds (sharing root ground back) sandbox.removeOldLog := by
  have proper : Path.IsProper "sandbox.log" := by decide
  rw [Sandbox.removeOldLog, inside]
  refine .bind (.onDisk (Rule.ask _)) fun present => ?_
  split
  next => exact .onDisk ((obeys_removeFile proper).reportedFor _)
  next => exact .pure _

theorem minds_executeEntry (inside : sandbox.workspace = .inside root)
    (mind : sandbox.collaborators.Mind (sharing root ground back)) (entry : String) :
    Minds (sharing root ground back) (sandbox.executeEntry entry) := by
  rw [Sandbox.executeEntry]
  refine .bind .get fun state => .bind (.report _) fun _ => ?_
  split
  next => exact .throw_bind _ _
  next =>
    refine .bind (.report _) fun _ => .bind (.report _) fun _ => ?_
    refine .bind (minds_removeOldLog inside) fun _ => .bind (.onDisk (Rule.ask _)) fun present => ?_
    refine .bind (.happen _) fun _ => .bind (mind.execute _ _ _) fun result => ?_
    refine .bind (.report _) fun _ => ?_
    split
    next => exact .bind (.tell _) fun _ => .pure _
    next => exact .pure _

theorem minds_synchronize (mind : sandbox.collaborators.Mind (sharing root ground back)) :
    Minds (sharing root ground back) sandbox.synchronize := by
  have ingests (logFile : String) : Minds (sharing root ground back) (sandbox.ingest logFile) := by
    rw [Sandbox.ingest]
    exact .bind (.happen _) fun _ => mind.ingest logFile
  rw [Sandbox.synchronize]
  refine .bind (.quiet fun _ => rfl) fun changed => ?_
  have shows : Minds (sharing root ground back) (do
      sandbox.forget
      sandbox.ingest sandbox.workspace.logFile
      return changed) :=
    .bind (.quiet fun state => mind.forget state.surroundings) fun _ =>
      .bind (ingests _) fun _ => .pure _
  split
  next =>
    refine .bind .get fun state => .bind (.happen _) fun _ => ?_
    exact .bind (mind.save _) fun _ => shows
  next => exact shows

theorem minds_locateFirst : Minds (sharing root ground back) sandbox.locateFirst := by
  rw [Sandbox.locateFirst]
  refine .bind .get fun state => ?_
  split
  next name =>
    rw [Sandbox.locate]
    refine .bind (.report _) fun _ => .bind (.happen _) fun _ => .bind .get fun _ => ?_
    split
    next => exact .bind (.pure _) fun _ => .bind (.tell _) fun _ => .pure _
    next =>
      refine .bind (.report _) fun _ => .bind (.report _) fun _ => ?_
      exact .bind (.pure _) fun _ => .bind (.tell _) fun _ => .pure _
  next => exact .bind (.tell _) fun _ => .pure _

theorem minds_step (inside : sandbox.workspace = .inside root)
    (mind : sandbox.collaborators.Mind (sharing root ground back)) (sources : List String)
    (stage : Stage) : Minds (sharing root ground back) (sandbox.step sources stage) := by
  cases stage with
  | writing => exact .bind (minds_writeSources sources) fun _ => .pure _
  | compiling => exact minds_compile mind
  | executing =>
      refine .bind .get fun state => ?_
      split
      next => exact .pure _
      next => exact minds_executeEntry inside mind _
  | noEntryPoint => exact .bind (.report _) fun _ => .pure _
  | ingesting => exact .bind (minds_synchronize mind) fun _ => .bind (.report _) fun _ => .pure _
  | locating => exact .bind minds_locateFirst fun _ => .pure _
  | done | aborted => exact .throw _

theorem minds_enter (inside : sandbox.workspace = .inside root)
    (mind : sandbox.collaborators.Mind (sharing root ground back)) (sources : List String)
    (stage : Stage) : Minds (sharing root ground back) (sandbox.enter sources stage) := by
  rw [Sandbox.enter]
  exact .bind (.quiet fun _ => rfl) fun _ => minds_step inside mind sources stage

theorem minds_runFrom (inside : sandbox.workspace = .inside root)
    (mind : sandbox.collaborators.Mind (sharing root ground back)) (sources : List String)
    (stage : Stage) : Minds (sharing root ground back) (sandbox.runFrom sources stage) := by
  induction remaining : stage.remaining using Nat.strongRecOn generalizing stage with
  | ind remaining ih =>
      rw [Sandbox.runFrom]
      refine .bind (minds_enter inside mind sources stage) fun led => ?_
      cases led with
      | advance next fewer => exact ih next.remaining (remaining ▸ fewer) next rfl
      | stop outcome => exact .pure _

/-- A run leaves all locks good. -/
theorem minds_run (inside : sandbox.workspace = .inside root)
    (mind : sandbox.collaborators.Mind (sharing root ground back)) (sources : List String) :
    Minds (sharing root ground back) (sandbox.run sources) := by
  rw [Sandbox.run]
  refine .bind (.onDisk (obeys_ensureReady _ _)) fun _ => ?_
  exact .bind (.quiet fun _ => rfl) fun _ => minds_runFrom inside mind sources .writing

end Stages

end SnippetSandbox.Run
