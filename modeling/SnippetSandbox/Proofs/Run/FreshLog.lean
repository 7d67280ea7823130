import Mathlib
import SnippetSandbox.Console.Command
import SnippetSandbox.Proofs.Run.History

/-!
# No log but a run's own

Whatever an earlier run left at the log's path is gone when a program is started.  A
gauge insists on a log, so a run with a gauge gets past its analysis only with the
log that its own program has left.
-/

namespace SnippetSandbox.Run

open Analysis FileSystem

variable {Memory : Type}

namespace Exchange

/-- Nothing is at the log's path when the exchange begins, if it is an execution. -/
def startsWithout (logFile : String) : Exchange → Bool
  | .execute _ _ _ reply => !reply.before.pathExists logFile
  | _ => true

def isExecution : Exchange → Bool
  | .execute .. => true
  | _ => false

/-- The store makes something appear at the log's path. -/
def bringsLog (logFile : String) : Exchange → Bool
  | .save _ reply => !reply.before.pathExists logFile && reply.after.pathExists logFile
  | _ => false

/-- Whether an execution that succeeded has made something appear at the log's path. -/
def createsLog? (logFile : String) : Exchange → Option Bool
  | .execute _ _ _ ⟨before, .ok ⟨true, _⟩, after⟩ =>
      some (!before.pathExists logFile && after.pathExists logFile)
  | _ => none

end Exchange

/-- For each execution that succeeded, whether it has made something appear at the
log's path. -/
def createdLogs (logFile : String) (exchanges : List Exchange) : List Bool :=
  exchanges.filterMap (Exchange.createsLog? logFile)

/-- The analysis is a gauge, which is this part of what the others remember. -/
structure IsGauged (collaborators : Collaborators Memory) (gauge : Memory → Gauge) : Prop where
  forget_disk : ∀ surroundings, (collaborators.forget surroundings).disk = surroundings.disk
  forget_gauge : ∀ surroundings,
    gauge (collaborators.forget surroundings).memory = (gauge surroundings.memory).forget
  ingest_answer : ∀ logFile surroundings, (collaborators.ingest logFile surroundings).1 =
    ((gauge surroundings.memory).ingest logFile surroundings.disk).1
  ingest_gauge : ∀ logFile surroundings,
    gauge (collaborators.ingest logFile surroundings).2.memory =
      ((gauge surroundings.memory).ingest logFile surroundings.disk).2
  ingest_disk : ∀ logFile surroundings,
    (collaborators.ingest logFile surroundings).2.disk = surroundings.disk
  lookup : ∀ name surroundings,
    collaborators.lookup name surroundings = (gauge surroundings.memory).lookup name

/-- The sandbox of the command line has a gauge for its analysis. -/
theorem isGauged_console (setting : Console.Setting) (preparation : Console.Preparation) :
    IsGauged (Console.sandbox setting preparation).collaborators id where
  forget_disk _ := rfl
  forget_gauge _ := rfl
  ingest_answer _ _ := rfl
  ingest_gauge _ _ := rfl
  ingest_disk _ _ := rfl
  lookup _ _ := rfl

theorem pathExists_of_ingest {gauge left : Gauge} {logFile : String} {disk : Disk}
    (taken : gauge.ingest logFile disk = (.ok (), left)) : disk.pathExists logFile = true := by
  rw [Gauge.ingest, Disk.size] at taken
  rw [Disk.pathExists]
  cases found : disk.entryAt? logFile with
  | error cause =>
      rw [found] at taken
      cases taken
  | ok entry => rfl

theorem forall_of_noExecution {exchanges : List Exchange} {property : Exchange → Prop}
    (noExecution : exchanges.any Exchange.isExecution = false)
    (others : ∀ exchange : Exchange, exchange.isExecution = false → property exchange) :
    ∀ exchange ∈ exchanges, property exchange := by
  intro exchange isMember
  have other := List.any_eq_false.mp noExecution exchange isMember
  exact others exchange (Bool.eq_false_iff.mpr other)

theorem Synchronizes.executesNothing {sandbox : Sandbox Memory}
    {before after : State (Recorded Memory)} {answer : Except Failure Bool}
    (tries : Synchronizes sandbox before after answer) :
    ∃ exchanges, after.exchanges = before.exchanges ++ exchanges ∧
      exchanges.any Exchange.isExecution = false := by
  cases tries with
  | unsaved _ _ _ adds => exact ⟨_, adds.exchanges, rfl⟩
  | unshown _ storing _ adds =>
      refine ⟨_, adds.exchanges, ?_⟩
      cases storing <;> rfl
  | shown _ storing _ adds =>
      refine ⟨_, adds.exchanges, ?_⟩
      cases storing <;> rfl

section Fresh

variable {sandbox : Sandbox Memory} {before after : State (Recorded Memory)}

/-- In the exchanges of this state, every program was started with nothing at the
log's path. -/
def StartsFresh (sandbox : Sandbox Memory) (state : State (Recorded Memory)) : Prop :=
  state.exchanges.all (Exchange.startsWithout sandbox.workspace.logFile) = true

theorem StartsFresh.add (holds : StartsFresh sandbox before) {exchanges : List Exchange}
    (adds : after.exchanges = before.exchanges ++ exchanges)
    (fresh : exchanges.all (Exchange.startsWithout sandbox.workspace.logFile) = true) :
    StartsFresh sandbox after := by
  rw [StartsFresh, adds, List.all_append, fresh, Bool.and_true]
  exact holds

theorem StartsFresh.synchronizes {answer : Except Failure Bool}
    (holds : StartsFresh sandbox before) (tries : Synchronizes sandbox before after answer) :
    StartsFresh sandbox after := by
  obtain ⟨exchanges, adds, noExecution⟩ := tries.executesNothing
  refine holds.add adds ?_
  rw [List.all_eq_true]
  refine forall_of_noExecution noExecution fun exchange other => ?_
  cases exchange with
  | execute => cases other
  | compile | save | forget | ingest => rfl

theorem lasts_startsFresh (sandbox : Sandbox Memory) : Lasts sandbox (StartsFresh sandbox) := by
  refine .of_toolCalls (fun holds exchanges _ => ?_) (fun {_ _ exchange} holds adds isCall _ => ?_)
    fun holds tries _ => holds.synchronizes tries
  · exact holds.add (exchanges.trans (List.append_nil _).symm) rfl
  · refine holds.add adds ?_
    cases exchange with
    | compile => rfl
    | execute => simp [Exchange.startsWithout, isCall.2.2]
    | save | forget | ingest => exact isCall.elim

end Fresh

section Gauged

variable {sandbox : Sandbox Memory} {gauge : Memory → Gauge} {sources : List String}
variable {before after : State (Recorded Memory)}

theorem createdLogs_append (logFile : String) (first second : List Exchange) :
    createdLogs logFile (first ++ second) =
      createdLogs logFile first ++ createdLogs logFile second :=
  List.filterMap_append

theorem createdLogs_eq_nil {logFile : String} {exchanges : List Exchange}
    (noExecution : exchanges.any Exchange.isExecution = false) :
    createdLogs logFile exchanges = [] := by
  rw [createdLogs, List.filterMap_eq_nil_iff]
  refine forall_of_noExecution noExecution fun exchange other => ?_
  cases exchange with
  | execute => cases other
  | compile | save | forget | ingest => rfl

theorem createdLogs_add {logFile : String} {exchanges : List Exchange}
    (adds : after.exchanges = before.exchanges ++ exchanges)
    (noExecution : exchanges.any Exchange.isExecution = false) :
    createdLogs logFile after.exchanges = createdLogs logFile before.exchanges := by
  rw [adds, createdLogs_append, createdLogs_eq_nil noExecution, List.append_nil]

/-- A log that is there after the configuration was stored was there before it, unless
the store has brought it. -/
theorem Storing.pathExists {registered : Config × Bool} {logFile : String}
    {first stored : Surroundings Memory} {saves : List Exchange}
    (storing : Storing sandbox registered first saves stored)
    (quiet : saves.any (Exchange.bringsLog logFile) = false)
    (present : stored.disk.pathExists logFile = true) :
    first.disk.pathExists logFile = true := by
  cases storing with
  | needless same => exact present
  | stored changed kept => simpa [Exchange.bringsLog, present] using quiet

/-- A synchronization with a gauge succeeds only when there was a log before it, unless
the store has brought one. -/
theorem IsGauged.pathExists_of_synchronizes {changed : Bool}
    (gauged : IsGauged sandbox.collaborators gauge)
    (tries : Synchronizes sandbox before after (.ok changed))
    (quiet : after.exchanges.any (Exchange.bringsLog sandbox.workspace.logFile) = false) :
    before.surroundings.disk.pathExists sandbox.workspace.logFile = true := by
  cases tries with
  | @shown registered saves stored isRegistered storing answered adds =>
      have taken := gauged.ingest_answer sandbox.workspace.logFile
        (sandbox.collaborators.forget stored)
      rw [answered, gauged.forget_disk] at taken
      have present := pathExists_of_ingest (Prod.ext taken.symm rfl)
      rw [adds.exchanges, List.any_append, List.any_append, Bool.or_eq_false_iff,
        Bool.or_eq_false_iff] at quiet
      exact storing.pathExists quiet.2.1 present

def Awaits (sandbox : Sandbox Memory) (stage : Stage) (state : State (Recorded Memory)) : Prop :=
  match stage with
  | .ingesting => createdLogs sandbox.workspace.logFile state.exchanges =
      [state.surroundings.disk.pathExists sandbox.workspace.logFile]
  | .locating =>
      state.exchanges.any (Exchange.bringsLog sandbox.workspace.logFile) = false →
        createdLogs sandbox.workspace.logFile state.exchanges = [true]
  | _ => createdLogs sandbox.workspace.logFile state.exchanges = []

/-- What is so about the log when a run has ended: with a member looked for, the one
program that was executed has left it, and with another outcome none has succeeded. -/
def Explains (sandbox : Sandbox Memory) (answer : Except Failure Outcome)
    (state : State (Recorded Memory)) : Prop :=
  match answer with
  | .ok (.located _) =>
      state.exchanges.any (Exchange.bringsLog sandbox.workspace.logFile) = false →
        createdLogs sandbox.workspace.logFile state.exchanges = [true]
  | .ok _ => createdLogs sandbox.workspace.logFile state.exchanges = []
  | .error _ => True

/-- Each stage leads from what is so about the log before it to what is so before the
next one. -/
theorem awaits_advances (gauged : IsGauged sandbox.collaborators gauge) {stage next : Stage}
    {later : next.remaining < stage.remaining} (awaits : Awaits sandbox stage before)
    (passes : Passes sandbox sources (before.entering stage) after stage
      (.ok (.advance next later))) :
    Awaits sandbox next after := by
  cases passes with
  | written adds => exact (createdLogs_add adds.exchanges rfl).trans awaits
  | compiled _ adds _ _ leads =>
      have noneSoFar : createdLogs sandbox.workspace.logFile after.exchanges = [] :=
        (createdLogs_add adds.exchanges rfl).trans awaits
      rw [leads]
      split <;> exact noneSoFar
  | entryless _ same =>
      rw [same]
      exact awaits
  | executed fresh answered adds =>
      -- Nothing was at the log's path, so what is there now has come from the program.
      have noneSoFar : createdLogs sandbox.workspace.logFile
          (before.entering .executing).exchanges = [] := awaits
      change createdLogs _ after.exchanges = _
      rw [adds.exchanges, createdLogs_append, noneSoFar]
      simp [createdLogs, executing, Exchange.createsLog?, fresh]
  | synchronized tries =>
      intro quiet
      have present := gauged.pathExists_of_synchronizes tries quiet
      obtain ⟨exchanges, adds, noExecution⟩ := tries.executesNothing
      rw [createdLogs_add adds noExecution, ← present]
      exact awaits

/-- A stage that stops the run leaves the log as its outcome says. -/
theorem explains_stops {stage : Stage} {outcome : Outcome} (awaits : Awaits sandbox stage before)
    (passes : Passes sandbox sources (before.entering stage) after stage (.ok (.stop outcome))) :
    Explains sandbox (.ok outcome) after := by
  cases passes with
  | rejected _ adds => exact (createdLogs_add adds.exchanges rfl).trans awaits
  | pointless adds => exact (createdLogs_add adds.exchanges rfl).trans awaits
  | failed _ _ adds =>
      have noneSoFar : createdLogs sandbox.workspace.logFile
          (before.entering .executing).exchanges = [] := awaits
      change createdLogs _ after.exchanges = []
      rw [adds.exchanges, createdLogs_append, noneSoFar]
      rfl
  | located _ adds =>
      have same : after.exchanges = before.exchanges := adds.exchanges.trans (List.append_nil _)
      rw [Explains, same]
      exact awaits

/-- A run with a gauge is carried from stage to stage with its own log. -/
theorem carries_awaits (gauged : IsGauged sandbox.collaborators gauge) :
    Carries sandbox sources (Awaits sandbox) (Explains sandbox) :=
  ⟨awaits_advances gauged, explains_stops, fun _ _ => trivial⟩

end Gauged

/-- Whatever has happened before, every program is started with nothing at the log's
path.  So with a gauge for the analysis, and with a store that brings no log, a run
looks for a member only when its own program has made the log, and a program that has
succeeded without making one ends the run with a failure. -/
theorem no_stale_log (sandbox : Sandbox Memory) (episodes : List Episode)
    (start : State Memory) :
    let logFile := sandbox.workspace.logFile
    (sandbox.exchangesOf episodes start).all (Exchange.startsWithout logFile) = true ∧
      ∀ (gauge : Memory → Gauge) (sources : List String),
        let begun := sandbox.play episodes start
        let exchanges := sandbox.runExchanges sources begun
        IsGauged sandbox.collaborators gauge →
        exchanges.any (Exchange.bringsLog logFile) = false →
          (∀ member, (sandbox.run sources begun).1 = .ok (.located member) →
            createdLogs logFile exchanges = [true]) ∧
          (false ∈ createdLogs logFile exchanges →
            ∃ failure, (sandbox.run sources begun).1 = .error failure) := by
  intro logFile
  refine ⟨(lasts_startsFresh sandbox).play episodes rfl, ?_⟩
  intro gauge sources begun exchanges gauged quiet
  have mirrored := sandbox.mirrors_run sources begun.recorded
  rw [State.plain_recorded] at mirrored
  have explains : Explains sandbox (sandbox.recorded.run sources begun.recorded).1
      (sandbox.recorded.run sources begun.recorded).2 := by
    refine (carries_awaits gauged).run (fun _ _ => trivial) ?_ rfl
    intro ready same _ _ _ _
    change createdLogs logFile ready.exchanges = []
    rw [same]
    rfl
  rw [mirrored]
  rcases answer : (sandbox.recorded.run sources begun.recorded).1 with failure | outcome
  · refine ⟨?_, fun _ => ⟨failure, rfl⟩⟩
    rintro member ⟨⟩
  · rw [answer] at explains
    cases outcome with
    | located found =>
        have own : createdLogs logFile exchanges = [true] := explains quiet
        refine ⟨fun _ _ => own, fun without => ?_⟩
        rw [own] at without
        simp at without
    | noEntryPoint | compilationFailed | executionFailed =>
        have noneSucceeded : createdLogs logFile exchanges = [] := explains
        refine ⟨?_, fun without => ?_⟩
        · rintro member ⟨⟩
        · rw [noneSucceeded] at without
          cases without

/-- A sandbox with a gauge, whose programs write the log. -/
def logging : Sandbox Gauge where
  workspace := ⟨"/", "/s", "/c", "/log", "/lock"⟩
  collaborators :=
    { compile _ _ := pure ⟨true, ""⟩
      execute _ _ _ := .ofTask do
        (writeText "/log" "new").reportedFor "/log"
        return ⟨true, ""⟩
      save _ := pure ()
      forget surroundings := { surroundings with memory := surroundings.memory.forget }
      ingest logFile surroundings :=
        let (answer, memory) := surroundings.memory.ingest logFile surroundings.disk
        (answer, { surroundings with memory })
      lookup name surroundings := surroundings.memory.lookup name
      detect _ := true }

theorem isGauged_logging : IsGauged logging.collaborators id where
  forget_disk _ := rfl
  forget_gauge _ := rfl
  ingest_answer _ _ := rfl
  ingest_gauge _ _ := rfl
  ingest_disk _ _ := rfl
  lookup _ _ := rfl

/-- A disk on which somebody has left a log. -/
def leftBehind : Disk :=
  { tree := ⟨[("c", .directory []), ("log", .file 0 ByteArray.empty false),
      ("s", .directory [])], 1⟩
    current := [] }

theorem no_stale_log_logging :
    let begun : State Gauge := .start ⟨leftBehind, {}⟩ {}
    (logging.run ["class A {}"] begun).1 = .ok (.located none) ∧
      createdLogs "/log" (logging.runExchanges ["class A {}"] begun) = [true] := by
  intro begun
  -- Both facts are about the recorded run, which is evaluated only once.
  have ran : (logging.recorded.run ["class A {}"] begun.recorded).1 = .ok (.located none) ∧
      (logging.runExchanges ["class A {}"] begun).any (Exchange.bringsLog "/log") = false := by
    rw [Sandbox.runExchanges]
    cbv
  have located : (logging.run ["class A {}"] begun).1 = .ok (.located none) :=
    (congrArg Prod.fst (logging.mirrors_run ["class A {}"] begun.recorded)).trans ran.1
  have fresh := (no_stale_log logging [] begun).2 id ["class A {}"] isGauged_logging ran.2
  exact ⟨located, fresh.1 none located⟩

end SnippetSandbox.Run
