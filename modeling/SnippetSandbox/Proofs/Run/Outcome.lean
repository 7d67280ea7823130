import SnippetSandbox.Proofs.Run.Course

/-!
# Outcomes and what happened outside

The outcome of a run tells what the compiler, the executor and the analysis
answered, and from their answers the outcome can be told.  Both follow from an
invariant: when a stage is reached, the record holds the successful exchanges of
the stages before it and nothing else, and no remark has been made.
-/

namespace SnippetSandbox.Run

open Analysis FileSystem

variable {Memory : Type}

/-- What is on the record, what was remarked, and the stages gone through. -/
structure Tally (state : State (Recorded Memory)) (exchanges : List Exchange)
    (remarks : List Event) (stages : List Stage) : Prop where
  exchanges : state.exchanges = exchanges
  remarks : state.remarks = remarks
  stages : state.stages = stages

/-- A stage adds to the tally what it exchanged and remarked, and itself. -/
theorem Tally.passed {before after : State (Recorded Memory)} {stage : Stage}
    {first second : List Exchange} {early late : List Event} {stages : List Stage}
    (tally : Tally before first early stages)
    (adds : Adds (before.entering stage) after second late) :
    Tally after (first ++ second) (early ++ late) (stages ++ [stage]) where
  exchanges := by rw [adds.exchanges, ← tally.exchanges]; rfl
  remarks := by rw [adds.remarks, ← tally.remarks]; rfl
  stages := by rw [adds.stages, ← tally.stages]; rfl

/-- What is so when a run of these sources reaches a stage. -/
inductive Reached (sandbox : Sandbox Memory) (sources : List String) (config : Config)
    (state : State (Recorded Memory)) : Stage → Prop
  | writing (tally : Tally state [] [] []) (same : state.config = config)
      (session : state.session = {}) : Reached sandbox sources config state .writing
  | compiling (tally : Tally state [] [] [.writing]) (same : state.config = config)
      (entry : state.session.entry.isSome = sources.any sandbox.collaborators.detect) :
      Reached sandbox sources config state .compiling
  | noEntryPoint {compiled messages} (compiles : Compiles (.ok ⟨true, messages⟩) compiled)
      (tally : Tally state [compiled] [] [.writing, .compiling])
      (accepted : sources.any sandbox.collaborators.detect = false) :
      Reached sandbox sources config state .noEntryPoint
  | executing {compiled messages} (compiles : Compiles (.ok ⟨true, messages⟩) compiled)
      (tally : Tally state [compiled] [] [.writing, .compiling]) (same : state.config = config)
      (accepted : sources.any sandbox.collaborators.detect = true)
      (entry : state.session.entry.isSome = true) :
      Reached sandbox sources config state .executing
  | ingesting {compiled messages executed errors}
      (compiles : Compiles (.ok ⟨true, messages⟩) compiled)
      (executes : Executes (.ok ⟨true, errors⟩) executed)
      (tally : Tally state [compiled, executed] [] [.writing, .compiling, .executing])
      (same : state.config = config)
      (accepted : sources.any sandbox.collaborators.detect = true) :
      Reached sandbox sources config state .ingesting
  | locating {compiled messages executed errors saves shows}
      (compiles : Compiles (.ok ⟨true, messages⟩) compiled)
      (executes : Executes (.ok ⟨true, errors⟩) executed)
      (stores : Stores state.config saves) (shown : Shows sandbox.workspace.logFile (.ok ()) shows)
      (tally : Tally state ([compiled, executed] ++ (saves ++ shows)) []
        [.writing, .compiling, .executing, .ingesting])
      (registered : state.config = (register sandbox.workspace sandbox.archive config).1)
      (accepted : sources.any sandbox.collaborators.detect = true) :
      Reached sandbox sources config state .locating

/-- How a run of these sources ends. -/
inductive Ends (sandbox : Sandbox Memory) (sources : List String) (config : Config)
    (final : State (Recorded Memory)) : Except Failure Outcome → Prop
  | unready {failure} (tally : Tally final [] [] []) :
      Ends sandbox sources config final (.error failure)
  | unwritten {failure} (tally : Tally final [] [] [.writing]) :
      Ends sandbox sources config final (.error failure)
  | uncompiled {failure compiled} (compiles : Compiles (.error failure) compiled)
      (tally : Tally final [compiled] [] [.writing, .compiling]) :
      Ends sandbox sources config final (.error failure)
  | rejected {compiled messages} (compiles : Compiles (.ok ⟨false, messages⟩) compiled)
      (tally : Tally final [compiled] [.told (.trouble messages)] [.writing, .compiling]) :
      Ends sandbox sources config final (.ok (.compilationFailed messages))
  | pointless {compiled messages} (compiles : Compiles (.ok ⟨true, messages⟩) compiled)
      (tally : Tally final [compiled] [] [.writing, .compiling, .noEntryPoint])
      (accepted : sources.any sandbox.collaborators.detect = false) :
      Ends sandbox sources config final (.ok .noEntryPoint)
  | unlaunched {failure compiled messages} (compiles : Compiles (.ok ⟨true, messages⟩) compiled)
      (tally : Tally final [compiled] [] [.writing, .compiling, .executing])
      (accepted : sources.any sandbox.collaborators.detect = true) :
      Ends sandbox sources config final (.error failure)
  | unexecuted {failure compiled messages executed}
      (compiles : Compiles (.ok ⟨true, messages⟩) compiled)
      (executes : Executes (.error failure) executed)
      (tally : Tally final [compiled, executed] [] [.writing, .compiling, .executing])
      (accepted : sources.any sandbox.collaborators.detect = true) :
      Ends sandbox sources config final (.error failure)
  | failed {compiled messages executed errors}
      (compiles : Compiles (.ok ⟨true, messages⟩) compiled)
      (executes : Executes (.ok ⟨false, errors⟩) executed)
      (tally : Tally final [compiled, executed] [.told (.trouble errors)]
        [.writing, .compiling, .executing])
      (same : final.config = config)
      (accepted : sources.any sandbox.collaborators.detect = true) :
      Ends sandbox sources config final (.ok (.executionFailed errors))
  | unsaved {failure compiled messages executed errors saved}
      (compiles : Compiles (.ok ⟨true, messages⟩) compiled)
      (executes : Executes (.ok ⟨true, errors⟩) executed)
      (saves : Saves final.config (.error failure) saved)
      (tally : Tally final [compiled, executed, saved] []
        [.writing, .compiling, .executing, .ingesting])
      (accepted : sources.any sandbox.collaborators.detect = true) :
      Ends sandbox sources config final (.error failure)
  | unshown {failure compiled messages executed errors saves shows}
      (compiles : Compiles (.ok ⟨true, messages⟩) compiled)
      (executes : Executes (.ok ⟨true, errors⟩) executed)
      (stores : Stores final.config saves)
      (shown : Shows sandbox.workspace.logFile (.error failure) shows)
      (tally : Tally final ([compiled, executed] ++ (saves ++ shows)) []
        [.writing, .compiling, .executing, .ingesting])
      (accepted : sources.any sandbox.collaborators.detect = true) :
      Ends sandbox sources config final (.error failure)
  | located {compiled messages executed errors saves shows}
      (compiles : Compiles (.ok ⟨true, messages⟩) compiled)
      (executes : Executes (.ok ⟨true, errors⟩) executed)
      (stores : Stores final.config saves) (shown : Shows sandbox.workspace.logFile (.ok ()) shows)
      (tally : Tally final ([compiled, executed] ++ (saves ++ shows))
        (lookingFor final.session.first (shownMember sandbox final.session.first final.outside))
        [.writing, .compiling, .executing, .ingesting, .locating])
      (registered : final.config = (register sandbox.workspace sandbox.archive config).1)
      (accepted : sources.any sandbox.collaborators.detect = true) :
      Ends sandbox sources config final
        (.ok (.located (shownMember sandbox final.session.first final.outside)))

section Course

variable {sandbox : Sandbox Memory} {sources : List String} {config : Config}
variable {before after : State (Recorded Memory)} {stage : Stage}

/-- Each stage leads from what is so before it to what is so before the next one. -/
theorem reached_advances {next : Stage} {later : next.remaining < stage.remaining}
    (reached : Reached sandbox sources config before stage)
    (passes : Passes sandbox sources (before.entering stage) after stage
      (.ok (.advance next later))) :
    Reached sandbox sources config after next := by
  cases passes with
  | written adds kept entry =>
      cases reached with
      | writing tally same session =>
          have noEntry : (before.entering .writing).session.entry = none := by
            change before.session.entry = none
            rw [session]
          rw [noEntry] at entry
          exact .compiling (tally.passed adds) (kept.trans same) entry
  | compiled answered adds kept session leads =>
      cases reached with
      | compiling tally same entry =>
          have passed := tally.passed adds
          have hasEntry : (before.entering .compiling).session.entry.isSome =
              sources.any sandbox.collaborators.detect := entry
          rw [hasEntry] at leads
          cases accepted : sources.any sandbox.collaborators.detect with
          | true =>
              rw [accepted, if_pos rfl] at leads
              subst leads
              refine .executing (.intro _ _ _ _) passed (kept.trans same) accepted ?_
              rw [session, hasEntry, accepted]
          | false =>
              rw [accepted, if_neg (by decide)] at leads
              subst leads
              exact .noEntryPoint (.intro _ _ _ _) passed accepted
  | entryless noEntry _ =>
      cases reached with
      | executing compiles tally same accepted entry =>
          change before.session.entry = none at noEntry
          rw [noEntry] at entry
          cases entry
  | executed fresh answered adds kept session =>
      cases reached with
      | executing compiles tally same accepted entry =>
          exact .ingesting compiles (.intro _ _ _ _ _) (tally.passed adds) (kept.trans same)
            accepted
  | synchronized tries kept session =>
      cases reached with
      | ingesting compiles executes tally same accepted =>
          cases tries with
          | shown isRegistered storing answered adds =>
              have registered : after.config =
                  (register sandbox.workspace sandbox.archive config).1 := by
                rw [kept, ← same]
                rfl
              refine .locating compiles executes ?_ (shows_showing _ _ _ _) (tally.passed adds)
                registered accepted
              rw [kept, ← isRegistered]
              exact storing.stores

theorem reached_stops {outcome : Outcome} (reached : Reached sandbox sources config before stage)
    (passes : Passes sandbox sources (before.entering stage) after stage (.ok (.stop outcome))) :
    Ends sandbox sources config after (.ok outcome) := by
  cases passes with
  | rejected answered adds kept =>
      cases reached with
      | compiling tally same entry => exact .rejected (.intro _ _ _ _) (tally.passed adds)
  | pointless adds kept =>
      cases reached with
      | noEntryPoint compiles tally accepted =>
          exact .pointless compiles (tally.passed adds) accepted
  | failed fresh answered adds kept =>
      cases reached with
      | executing compiles tally same accepted entry =>
          exact .failed compiles (.intro _ _ _ _ _) (tally.passed adds) (kept.trans same) accepted
  | located shown adds outside kept session =>
      cases reached with
      | locating compiles executes stores shows tally registered accepted =>
          rw [← session, ← outside] at shown
          rw [← session] at adds
          subst shown
          have passed := tally.passed adds
          rw [List.append_nil] at passed
          refine .located compiles executes ?_ shows passed (kept.trans registered) accepted
          rw [kept]
          exact stores

theorem reached_fails {failure : Failure} (reached : Reached sandbox sources config before stage)
    (passes : Passes sandbox sources (before.entering stage) after stage (.error failure)) :
    Ends sandbox sources config after (.error failure) := by
  cases passes with
  | unwritten adds kept =>
      cases reached with
      | writing tally same session => exact .unwritten (tally.passed adds)
  | uncompiled answered adds kept =>
      cases reached with
      | compiling tally same entry => exact .uncompiled (.intro _ _ _ _) (tally.passed adds)
  | unlaunched adds kept =>
      cases reached with
      | executing compiles tally same accepted entry =>
          exact .unlaunched compiles (tally.passed adds) accepted
  | unexecuted fresh answered adds kept =>
      cases reached with
      | executing compiles tally same accepted entry =>
          exact .unexecuted compiles (.intro _ _ _ _ _) (tally.passed adds) accepted
  | unsynchronized tries kept =>
      cases reached with
      | ingesting compiles executes tally same accepted =>
          cases tries with
          | unsaved isRegistered changed refused adds =>
              rw [isRegistered, ← kept] at adds
              exact .unsaved compiles executes (.intro _ _) (tally.passed adds) accepted
          | unshown isRegistered storing refused adds =>
              refine .unshown compiles executes ?_ (shows_showing _ _ _ _) (tally.passed adds)
                accepted
              rw [kept, ← isRegistered]
              exact storing.stores
  | finished terminal _ =>
      rcases terminal with rfl | rfl <;> cases reached

/-- Every run ends in one of the listed ways. -/
theorem run_ends {surroundings : Surroundings Memory} {answer : Except Failure Outcome}
    {final : State (Recorded Memory)}
    (done : sandbox.recorded.run sources (State.start surroundings config).recorded =
      (answer, final)) : Ends sandbox sources config final answer := by
  have carries : Carries sandbox sources (fun stage state =>
      Reached sandbox sources config state stage)
      (fun answer state => Ends sandbox sources config state answer) :=
    ⟨reached_advances, reached_stops, reached_fails⟩
  refine carries.run ?_ ?_ done
  · intro failed failure adds kept
    exact .unready ⟨adds.exchanges, adds.remarks, adds.stages⟩
  · intro begun exchanges remarks kept session stages
    exact .writing ⟨exchanges, remarks, stages⟩ kept session

end Course

namespace Exchange

/-- The compiler's answer, in an exchange with the compiler. -/
def compilation? : Exchange → Option (Except Failure Compilation)
  | .compile _ _ reply => some reply.answer
  | _ => none

/-- The executor's answer, in an exchange with the executor. -/
def execution? : Exchange → Option (Except Failure Execution)
  | .execute _ _ _ reply => some reply.answer
  | _ => none

/-- The answer of the analysis, in an exchange in which it was shown a log. -/
def ingestion? : Exchange → Option (Except Failure Unit)
  | .ingest _ reply => some reply.answer
  | _ => none

/-- The failure that was answered, if one was. -/
def failure? : Exchange → Option Failure
  | .compile _ _ ⟨_, .error failure, _⟩ | .execute _ _ _ ⟨_, .error failure, _⟩
  | .save _ ⟨_, .error failure, _⟩ | .ingest _ ⟨_, .error failure, _⟩ => some failure
  | _ => none

end Exchange

/-- What the compiler answered, in order. -/
def compilations (exchanges : List Exchange) : List (Except Failure Compilation) :=
  exchanges.filterMap Exchange.compilation?

/-- What the executor answered, in order. -/
def executions (exchanges : List Exchange) : List (Except Failure Execution) :=
  exchanges.filterMap Exchange.execution?

/-- What the analysis answered to the logs that it was shown, in order. -/
def ingestions (exchanges : List Exchange) : List (Except Failure Unit) :=
  exchanges.filterMap Exchange.ingestion?

/-- The failures that were answered, in order. -/
def failures (exchanges : List Exchange) : List Failure :=
  exchanges.filterMap Exchange.failure?

/-- The answers in some exchanges, sorted by who gave them, and the failures among
them and among the store's. -/
structure Answers (exchanges : List Exchange) (compiled : List (Except Failure Compilation))
    (executed : List (Except Failure Execution)) (ingested : List (Except Failure Unit))
    (failed : List Failure) : Prop where
  compilations : compilations exchanges = compiled
  executions : executions exchanges = executed
  ingestions : ingestions exchanges = ingested
  failures : failures exchanges = failed

theorem Answers.append {first second : List Exchange}
    {compiled compiledLater : List (Except Failure Compilation)}
    {executed executedLater : List (Except Failure Execution)}
    {ingested ingestedLater : List (Except Failure Unit)} {failed failedLater : List Failure}
    (one : Answers first compiled executed ingested failed)
    (two : Answers second compiledLater executedLater ingestedLater failedLater) :
    Answers (first ++ second) (compiled ++ compiledLater) (executed ++ executedLater)
      (ingested ++ ingestedLater) (failed ++ failedLater) where
  compilations := by rw [← one.compilations, ← two.compilations]; exact List.filterMap_append
  executions := by rw [← one.executions, ← two.executions]; exact List.filterMap_append
  ingestions := by rw [← one.ingestions, ← two.ingestions]; exact List.filterMap_append
  failures := by rw [← one.failures, ← two.failures]; exact List.filterMap_append

def failuresOf {Result : Type} : Except Failure Result → List Failure
  | .ok _ => []
  | .error failure => [failure]

theorem Compiles.answers {answer : Except Failure Compilation} {exchange : Exchange}
    (compiles : Compiles answer exchange) :
    Answers [exchange] [answer] [] [] (failuresOf answer) := by
  cases compiles
  cases answer <;> exact ⟨rfl, rfl, rfl, rfl⟩

theorem Executes.answers {answer : Except Failure Execution} {exchange : Exchange}
    (executes : Executes answer exchange) :
    Answers [exchange] [] [answer] [] (failuresOf answer) := by
  cases executes
  cases answer <;> exact ⟨rfl, rfl, rfl, rfl⟩

theorem Saves.answers {config : Config} {answer : Except Failure Unit} {exchange : Exchange}
    (saves : Saves config answer exchange) :
    Answers [exchange] [] [] [] (failuresOf answer) := by
  cases saves
  cases answer <;> exact ⟨rfl, rfl, rfl, rfl⟩

theorem Stores.answers {config : Config} {exchanges : List Exchange}
    (stores : Stores config exchanges) : Answers exchanges [] [] [] [] := by
  cases stores with
  | needless => exact ⟨rfl, rfl, rfl, rfl⟩
  | stored saves => exact saves.answers

theorem Shows.answers {logFile : String} {answer : Except Failure Unit}
    {exchanges : List Exchange} (shows : Shows logFile answer exchanges) :
    Answers exchanges [] [] [answer] (failuresOf answer) := by
  obtain ⟨⟨⟩⟩ := shows
  cases answer <;> exact ⟨rfl, rfl, rfl, rfl⟩

/-- The result and the end of a run are those that the answers of the others demand,
and the other way round. -/
structure AccountsFor (sandbox : Sandbox Memory) (sources : List String) (config : Config)
    (exchanges : List Exchange) (answer : Except Failure Outcome) (final : State Memory) :
    Prop where
  /-- No more than five stages are gone through. -/
  fewStages : final.stages.length ≤ 5
  /-- No stage is gone through that ends a run. -/
  properStages : ∀ stage ∈ final.stages, stage ≠ .done ∧ stage ≠ .aborted
  /-- The sources are rejected just when the compiler says so. -/
  compilationFailed : ∀ messages, answer = .ok (.compilationFailed messages) ↔
    compilations exchanges = [.ok ⟨false, messages⟩]
  /-- Then the messages have been shown once, and only the compiler was called. -/
  compilationFailed_course : ∀ messages, answer = .ok (.compilationFailed messages) →
    final.remarks = [.told (.trouble messages)] ∧
      ∃ compiled, Compiles (.ok ⟨false, messages⟩) compiled ∧ exchanges = [compiled]
  /-- There is no entry point just when the compiler accepts the sources and the
  detector none of them. -/
  noEntryPoint : answer = .ok .noEntryPoint ↔
    (∃ messages, compilations exchanges = [.ok ⟨true, messages⟩]) ∧
      ∀ text ∈ sources, sandbox.collaborators.detect text = false
  /-- Then nothing has been shown, and only the compiler was called. -/
  noEntryPoint_course : answer = .ok .noEntryPoint →
    final.remarks = [] ∧
      ∃ compiled messages, Compiles (.ok ⟨true, messages⟩) compiled ∧ exchanges = [compiled]
  /-- The program has failed just when the executor says so. -/
  executionFailed : ∀ errors, answer = .ok (.executionFailed errors) ↔
    (∃ messages, compilations exchanges = [.ok ⟨true, messages⟩]) ∧
      executions exchanges = [.ok ⟨false, errors⟩]
  /-- Then its errors have been shown once, only the compiler and the executor were
  called, each once, and the configuration is the one before. -/
  executionFailed_course : ∀ errors, answer = .ok (.executionFailed errors) →
    final.remarks = [.told (.trouble errors)] ∧ final.config = config ∧
      ∃ compiled messages executed, Compiles (.ok ⟨true, messages⟩) compiled ∧
        Executes (.ok ⟨false, errors⟩) executed ∧ exchanges = [compiled, executed]
  /-- A member has been looked for just when the sources were compiled, the program was
  executed and the analysis has read the log; it is the one that the analysis knows. -/
  located : ∀ member, answer = .ok (.located member) ↔
    (∃ messages, compilations exchanges = [.ok ⟨true, messages⟩]) ∧
      (∃ errors, executions exchanges = [.ok ⟨true, errors⟩]) ∧
      ingestions exchanges = [.ok ()] ∧
      member = shownMember sandbox final.session.first final.surroundings
  /-- Then the audience has been led there once and shown no trouble, everybody was
  called once and in order, and the registered configuration was stored unless
  nothing about it was new. -/
  located_course : ∀ member, answer = .ok (.located member) →
    final.remarks = lookingFor final.session.first member ∧
      final.config = (register sandbox.workspace sandbox.archive config).1 ∧
      ∃ compiled messages executed errors saves shows,
        Compiles (.ok ⟨true, messages⟩) compiled ∧ Executes (.ok ⟨true, errors⟩) executed ∧
        Stores final.config saves ∧ Shows sandbox.workspace.logFile (.ok ()) shows ∧
        exchanges = [compiled, executed] ++ (saves ++ shows)
  /-- A failure that anybody answers is the failure of the run. -/
  failure : ∀ failure ∈ failures exchanges, answer = .error failure

section Accounts

variable {sandbox : Sandbox Memory} {sources : List String} {config : Config}
variable {final : State (Recorded Memory)}

/-- Stages that are among the first five, in order, and none that ends a run. -/
theorem Ends.stages {answer : Except Failure Outcome}
    (ends : Ends sandbox sources config final answer) :
    final.stages.length ≤ 5 ∧ ∀ stage ∈ final.stages, stage ≠ .done ∧ stage ≠ .aborted := by
  cases ends with
  | unready tally | unwritten tally => rw [tally.stages]; decide
  | uncompiled _ tally | rejected _ tally => rw [tally.stages]; decide
  | pointless _ tally | unlaunched _ tally => rw [tally.stages]; decide
  | unexecuted _ _ tally | failed _ _ tally => rw [tally.stages]; decide
  | unsaved _ _ _ tally => rw [tally.stages]; decide
  | unshown _ _ _ _ tally | located _ _ _ _ tally => rw [tally.stages]; decide

theorem Ends.compilationFailed_course {messages : String}
    (ends : Ends sandbox sources config final (.ok (.compilationFailed messages))) :
    final.remarks = [.told (.trouble messages)] ∧
      ∃ compiled, Compiles (.ok ⟨false, messages⟩) compiled ∧ final.exchanges = [compiled] := by
  cases ends with
  | rejected compiles tally => exact ⟨tally.remarks, _, compiles, tally.exchanges⟩

theorem Ends.noEntryPoint_course (ends : Ends sandbox sources config final (.ok .noEntryPoint)) :
    final.remarks = [] ∧
      ∃ compiled messages, Compiles (.ok ⟨true, messages⟩) compiled ∧
        final.exchanges = [compiled] := by
  cases ends with
  | pointless compiles tally => exact ⟨tally.remarks, _, _, compiles, tally.exchanges⟩

theorem Ends.executionFailed_course {errors : String}
    (ends : Ends sandbox sources config final (.ok (.executionFailed errors))) :
    final.remarks = [.told (.trouble errors)] ∧ final.config = config ∧
      ∃ compiled messages executed, Compiles (.ok ⟨true, messages⟩) compiled ∧
        Executes (.ok ⟨false, errors⟩) executed ∧ final.exchanges = [compiled, executed] := by
  cases ends with
  | failed compiles executes tally same =>
      exact ⟨tally.remarks, same, _, _, _, compiles, executes, tally.exchanges⟩

theorem Ends.located_course {member : Option Member}
    (ends : Ends sandbox sources config final (.ok (.located member))) :
    final.remarks = lookingFor final.session.first member ∧
      final.config = (register sandbox.workspace sandbox.archive config).1 ∧
      ∃ compiled messages executed errors saves shows,
        Compiles (.ok ⟨true, messages⟩) compiled ∧ Executes (.ok ⟨true, errors⟩) executed ∧
        Stores final.config saves ∧ Shows sandbox.workspace.logFile (.ok ()) shows ∧
        final.exchanges = [compiled, executed] ++ (saves ++ shows) := by
  cases ends with
  | located compiles executes stores shows tally registered =>
      exact ⟨tally.remarks, registered, _, _, _, _, _, _, compiles, executes, stores, shows,
        tally.exchanges⟩

variable {answer : Except Failure Outcome}
variable {compiled : List (Except Failure Compilation)}
variable {executed : List (Except Failure Execution)}
variable {ingested : List (Except Failure Unit)} {failed : List Failure}

/-- It is enough to look at the answers, sorted by who gave them. -/
theorem Ends.accountsFor_of_answers (ends : Ends sandbox sources config final answer)
    (answers : Answers final.exchanges compiled executed ingested failed)
    (compilationFailed : ∀ messages, answer = .ok (.compilationFailed messages) ↔
      compiled = [.ok ⟨false, messages⟩])
    (noEntryPoint : answer = .ok .noEntryPoint ↔ (∃ messages, compiled = [.ok ⟨true, messages⟩]) ∧
      sources.any sandbox.collaborators.detect = false)
    (executionFailed : ∀ errors, answer = .ok (.executionFailed errors) ↔
      (∃ messages, compiled = [.ok ⟨true, messages⟩]) ∧ executed = [.ok ⟨false, errors⟩])
    (located : ∀ member, answer = .ok (.located member) ↔
      (∃ messages, compiled = [.ok ⟨true, messages⟩]) ∧
        (∃ errors, executed = [.ok ⟨true, errors⟩]) ∧ ingested = [.ok ()] ∧
        member = shownMember sandbox final.session.first final.outside)
    (failure : ∀ failure ∈ failed, answer = .error failure) :
    AccountsFor sandbox sources config final.exchanges answer final.plain where
  fewStages := ends.stages.1
  properStages := ends.stages.2
  compilationFailed messages := by
    rw [answers.compilations]
    exact compilationFailed messages
  compilationFailed_course messages same := by
    subst same
    exact ends.compilationFailed_course
  noEntryPoint := by
    rw [answers.compilations, noEntryPoint]
    simp
  noEntryPoint_course same := by
    subst same
    exact ends.noEntryPoint_course
  executionFailed errors := by
    rw [answers.compilations, answers.executions]
    exact executionFailed errors
  executionFailed_course errors same := by
    subst same
    exact ends.executionFailed_course
  located member := by
    rw [answers.compilations, answers.executions, answers.ingestions]
    exact located member
  located_course member same := by
    subst same
    exact ends.located_course
  failure := by
    rw [answers.failures]
    exact failure

theorem Ends.accountsFor (ends : Ends sandbox sources config final answer) :
    AccountsFor sandbox sources config final.exchanges answer final.plain := by
  have whole := ends
  cases ends with
  | unready tally | unwritten tally =>
      have answers : Answers final.exchanges [] [] [] [] := by
        rw [tally.exchanges]
        exact ⟨rfl, rfl, rfl, rfl⟩
      exact whole.accountsFor_of_answers answers (by simp) (by simp) (by simp) (by simp) (by simp)
  | uncompiled compiles tally | rejected compiles tally =>
      have answers := compiles.answers
      rw [← tally.exchanges] at answers
      exact whole.accountsFor_of_answers answers (by simp) (by simp) (by simp) (by simp)
        (by simp [failuresOf])
  | pointless compiles tally accepted | unlaunched compiles tally accepted =>
      have answers := compiles.answers
      rw [← tally.exchanges] at answers
      exact whole.accountsFor_of_answers answers (by simp) (by simp [accepted]) (by simp)
        (by simp) (by simp [failuresOf])
  | unexecuted compiles executes tally accepted | failed compiles executes tally _ accepted =>
      have answers := compiles.answers.append executes.answers
      rw [List.singleton_append, ← tally.exchanges] at answers
      exact whole.accountsFor_of_answers answers (by simp) (by simp [accepted]) (by simp)
        (by simp) (by simp [failuresOf])
  | unsaved compiles executes saves tally accepted =>
      have answers := compiles.answers.append (executes.answers.append saves.answers)
      rw [List.singleton_append, List.singleton_append, ← tally.exchanges] at answers
      exact whole.accountsFor_of_answers answers (by simp) (by simp [accepted]) (by simp)
        (by simp) (by simp [failuresOf])
  | unshown compiles executes stores shows tally accepted =>
      have answers := (compiles.answers.append executes.answers).append
        (stores.answers.append shows.answers)
      rw [List.singleton_append, ← tally.exchanges] at answers
      exact whole.accountsFor_of_answers answers (by simp) (by simp [accepted]) (by simp)
        (by simp) (by simp [failuresOf])
  | located compiles executes stores shows tally registered accepted =>
      have answers := (compiles.answers.append executes.answers).append
        (stores.answers.append shows.answers)
      rw [List.singleton_append, ← tally.exchanges] at answers
      exact whole.accountsFor_of_answers answers (by simp) (by simp [accepted]) (by simp)
        (by simp [eq_comm]) (by simp [failuresOf])

end Accounts

/-- The result of every run accounts for what happened outside. -/
theorem run_accountsFor (sandbox : Sandbox Memory) (sources : List String)
    (surroundings : Surroundings Memory) (config : Config) :
    AccountsFor sandbox sources config
      (sandbox.runExchanges sources (.start surroundings config))
      (sandbox.run sources (.start surroundings config)).1
      (sandbox.run sources (.start surroundings config)).2 := by
  rcases done : sandbox.recorded.run sources (State.start surroundings config).recorded with
    ⟨answer, final⟩
  have mirrors := sandbox.mirrors_run sources (State.start surroundings config).recorded
  rw [State.plain_recorded, done] at mirrors
  rw [Sandbox.runExchanges, done, mirrors]
  exact (run_ends done).accountsFor

end SnippetSandbox.Run
