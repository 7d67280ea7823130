import SnippetSandbox.Proofs.Run.Sources

/-!
# What the stages are given of the session

A session is written by one stage and read by three: everything written is compiled, the last
snippet with an entry point is executed, and the first one names the class to look up.  The
stage that writes can stop halfway and can be gone through again, in any order with the
others.  Whatever stages were gone through, the session tells what was written, and the next
stage is given what the session tells.
-/

namespace SnippetSandbox.Run

open Analysis FileSystem

variable {Memory Result : Type}

namespace Session

/-- The session tells what was written: all the files in order, the name of the first snippet,
and the name of the last one whose text has an entry point. -/
structure Tells (session : Session) (detect : Detector) (written : List Snippet) : Prop where
  files : session.files = written.map Snippet.path
  first : session.first = written.head?.map Snippet.name
  entry : session.entry =
    (written.filter fun snippet => detect snippet.text).getLast?.map Snippet.name

namespace Tells

variable {session : Session} {detect : Detector} {written : List Snippet}

theorem new : ({} : Session).Tells detect [] :=
  ⟨rfl, rfl, rfl⟩

/-- A recorded snippet is the first one if there was none, and the one to execute if its text
has an entry point. -/
theorem record (tells : session.Tells detect written) {snippet : Snippet}
    (judged : snippet.isEntry = detect snippet.text) :
    (session.record snippet).Tells detect (written ++ [snippet]) where
  files := by
    have files := tells.files
    rw [Session.files] at files ⊢
    rw [Session.record, List.map_append, List.map_append, files]
  first := by
    rw [Session.record, tells.first, List.head?_append]
    cases written <;> rfl
  entry := by
    rw [Session.record, judged, List.filter_append]
    cases accepted : detect snippet.text with
    | false => simp [accepted, tells.entry]
    | true => simp [accepted]

theorem foldl_record (tells : session.Tells detect written) {others : List Snippet}
    (judged : ∀ snippet ∈ others, snippet.isEntry = detect snippet.text) :
    (others.foldl Session.record session).Tells detect (written ++ others) := by
  induction others generalizing session written with
  | nil => simpa using tells
  | cons snippet others ih =>
      have one := tells.record (judged snippet List.mem_cons_self)
      have all := ih one fun other isMember => judged other (List.mem_cons_of_mem _ isMember)
      rwa [List.append_assoc] at all

end Tells

end Session

/-- In this exchange somebody is given what the session tells. -/
def Exchange.IsOf (workspace : Workspace) (session : Session) : Exchange → Prop
  | .compile files outputDir _ => files = session.files ∧ outputDir = workspace.classDir
  | .execute entry _ _ _ => session.entry = some entry
  | _ => True

/-- In this event somebody is given what the session tells. -/
def Event.IsOf (workspace : Workspace) (session : Session) : Event → Prop
  | .compile files outputDir => files = session.files ∧ outputDir = workspace.classDir
  | .execute entry _ _ _ => session.entry = some entry
  | .lookup name => session.first = some name
  | _ => True

/-- What the second state has on the record and among the events behind those of the first
one gives others what this session tells. -/
structure Gives (workspace : Workspace) (session : Session)
    (before after : State (Recorded Memory)) : Prop where
  exchanges : ∃ added, after.exchanges = before.exchanges ++ added ∧
    ∀ exchange ∈ added, exchange.IsOf workspace session
  events : ∃ added, after.events = before.events ++ added ∧
    ∀ event ∈ added, event.IsOf workspace session

/-- The same, and the session of the second state is that of the first one. -/
structure Reads (workspace : Workspace) (session : Session)
    (before after : State (Recorded Memory)) : Prop extends Gives workspace session before after
    where
  session : after.session = before.session

section Relations

variable {workspace : Workspace} {session : Session}
variable {first second third : State (Recorded Memory)}

theorem Gives.trans (one : Gives workspace session first second)
    (two : Gives workspace session second third) : Gives workspace session first third := by
  obtain ⟨exchanges, added, areOf⟩ := one.exchanges
  obtain ⟨later, addedLater, laterOf⟩ := two.exchanges
  obtain ⟨events, happened, eventsOf⟩ := one.events
  obtain ⟨laterEvents, happenedLater, laterEventsOf⟩ := two.events
  refine ⟨⟨exchanges ++ later, ?_, ?_⟩, ⟨events ++ laterEvents, ?_, ?_⟩⟩
  · rw [addedLater, added, List.append_assoc]
  · exact List.forall_mem_append.mpr ⟨areOf, laterOf⟩
  · rw [happenedLater, happened, List.append_assoc]
  · exact List.forall_mem_append.mpr ⟨eventsOf, laterEventsOf⟩

theorem Reads.trans (one : Reads workspace session first second)
    (two : Reads workspace session second third) : Reads workspace session first third :=
  ⟨one.toGives.trans two.toGives, two.session.trans one.session⟩

theorem Gives.of_same (exchanges : second.exchanges = first.exchanges)
    (events : second.events = first.events) : Gives workspace session first second where
  exchanges := ⟨[], by rw [exchanges, List.append_nil], List.forall_mem_nil _⟩
  events := ⟨[], by rw [events, List.append_nil], List.forall_mem_nil _⟩

theorem Reads.refl (state : State (Recorded Memory)) : Reads workspace session state state :=
  ⟨.of_same rfl rfl, rfl⟩

end Relations

section Actions

variable {workspace : Workspace} {session : Session}

theorem reads_pure (result : Result) : Effect.Relates (Reads workspace session)
    (pure result : Action (Recorded Memory) Result) :=
  Reads.refl

theorem reads_get : Effect.Relates (Reads workspace session)
    (get : Action (Recorded Memory) (State (Recorded Memory))) :=
  Reads.refl

theorem reads_happen {event : Event} (isOf : event.IsOf workspace session) :
    Effect.Relates (Reads workspace session) (happen event : Action (Recorded Memory) Unit) :=
  fun _ =>
    { exchanges := ⟨[], (List.append_nil _).symm, List.forall_mem_nil _⟩
      events := ⟨[event], rfl, List.forall_mem_singleton.mpr isOf⟩
      session := rfl }

theorem reads_tell (notice : Notice) : Effect.Relates (Reads workspace session)
    (tell notice : Action (Recorded Memory) Unit) :=
  reads_happen trivial

theorem reads_report (line : String) : Effect.Relates (Reads workspace session)
    (report line : Action (Recorded Memory) Unit) :=
  reads_tell _

theorem reads_onDisk (task : Task Result) : Effect.Relates (Reads workspace session)
    (onDisk task : Action (Recorded Memory) Result) :=
  fun _ => ⟨.of_same rfl rfl, rfl⟩

theorem reads_call {exchange : Reply Result → Exchange} (request : Call Memory Result)
    (isOf : ∀ reply, (exchange reply).IsOf workspace session) :
    Effect.Relates (Reads workspace session) (call (request.recorded exchange)) :=
  fun _ =>
    { exchanges := ⟨[exchange _], rfl, List.forall_mem_singleton.mpr (isOf _)⟩
      events := ⟨[], (List.append_nil _).symm, List.forall_mem_nil _⟩
      session := rfl }

end Actions

namespace Sandbox

variable (sandbox : Sandbox Memory)

theorem gives_writeSources (session : Session) (sources : List String) :
    Effect.Relates (Gives sandbox.workspace session) (sandbox.recorded.writeSources sources) := by
  have tells (line : String) : Effect.Relates (Gives sandbox.workspace session)
      (report line : Action (Recorded Memory) Unit) :=
    fun before => (reads_report line before).toGives
  induction sources with
  | nil => exact fun _ => .of_same rfl rfl
  | cons text sources ih =>
      have records (snippet : Snippet) : Effect.Relates (Gives sandbox.workspace session)
          (modify fun state => { state with session := state.session.record snippet } :
            Action (Recorded Memory) Unit) :=
        fun _ => .of_same rfl rfl
      rw [writeSources]
      refine .bind .trans (fun before => (reads_onDisk _ before).toGives) fun snippet => ?_
      dsimp only
      split
      next =>
        exact .bind .trans (tells _) fun _ => .bind .trans (tells _) fun _ =>
          .bind .trans (records snippet) fun _ => ih
      next => exact .bind .trans (tells _) fun _ => .bind .trans (records snippet) fun _ => ih

theorem reads_compile (before : State (Recorded Memory)) :
    Reads sandbox.workspace before.session before (sandbox.recorded.compile before).2 := by
  rw [compile, bind_get]
  refine Effect.Relates.bind .trans (reads_report _) (fun _ => ?_) before
  refine .bind .trans (reads_happen ⟨rfl, rfl⟩) fun _ => ?_
  refine .bind .trans (reads_call _ fun _ => ⟨rfl, rfl⟩) fun result => ?_
  refine .bind .trans (reads_report _) fun _ => ?_
  split
  next => exact .bind .trans (reads_tell _) fun _ => reads_pure _
  next =>
    refine .bind .trans reads_get fun state => ?_
    cases state.session.entry with
    | none => exact reads_pure _
    | some entry => exact reads_pure _

theorem reads_executeEntry {session : Session} {entry : String}
    (isEntry : session.entry = some entry) :
    Effect.Relates (Reads sandbox.workspace session) (sandbox.recorded.executeEntry entry) := by
  rw [executeEntry]
  refine .bind .trans reads_get fun state => .bind .trans (reads_report _) fun _ => ?_
  cases Classpath.join (Classpath.entries sandbox.recorded.workspace.classDir
      state.config.classLocations) with
  | error problem => exact Reads.refl
  | ok classpath =>
      refine .bind .trans (reads_report _) fun _ => .bind .trans (reads_report _) fun _ => ?_
      have removes : Effect.Relates (Reads sandbox.workspace session)
          sandbox.recorded.removeOldLog := by
        rw [removeOldLog]
        refine .bind .trans (reads_onDisk _) fun present => ?_
        split
        next => exact reads_onDisk _
        next => exact reads_pure _
      refine .bind .trans removes fun _ => .bind .trans (reads_onDisk _) fun present => ?_
      refine .bind .trans (reads_happen isEntry) fun _ => ?_
      refine .bind .trans (reads_call _ fun _ => isEntry) fun result => ?_
      refine .bind .trans (reads_report _) fun _ => ?_
      split
      next => exact .bind .trans (reads_tell _) fun _ => reads_pure _
      next => exact reads_pure _

theorem reads_synchronize (session : Session) :
    Effect.Relates (Reads sandbox.workspace session) sandbox.recorded.synchronize := by
  have shows : Effect.Relates (Reads sandbox.workspace session)
      (sandbox.recorded.ingest sandbox.workspace.logFile) :=
    .bind .trans (reads_happen trivial) fun _ => reads_call _ fun _ => trivial
  have forgets : Effect.Relates (Reads sandbox.workspace session) sandbox.recorded.forget :=
    .bind .trans (reads_happen trivial) fun _ _ =>
      { exchanges := ⟨[.forget _ _], rfl, List.forall_mem_singleton.mpr trivial⟩
        events := ⟨[], (List.append_nil _).symm, List.forall_mem_nil _⟩
        session := rfl }
  have registers : Effect.Relates (Reads sandbox.workspace session)
      sandbox.recorded.registerPaths :=
    .bind .trans reads_get fun _ => .bind .trans (fun _ => ⟨.of_same rfl rfl, rfl⟩) fun _ =>
      reads_pure _
  rw [synchronize]
  refine .bind .trans registers fun changed => ?_
  split
  next =>
    refine .bind .trans reads_get fun state => .bind .trans (reads_happen trivial) fun _ => ?_
    refine .bind .trans (reads_call _ fun _ => trivial) fun _ => ?_
    exact .bind .trans forgets fun _ => .bind .trans shows fun _ => reads_pure _
  next => exact .bind .trans forgets fun _ => .bind .trans shows fun _ => reads_pure _

theorem reads_locateFirst (before : State (Recorded Memory)) :
    Reads sandbox.workspace before.session before (sandbox.recorded.locateFirst before).2 := by
  rw [locateFirst, bind_get]
  cases first : before.session.first with
  | none => exact Effect.Relates.bind .trans (reads_tell _) (fun _ => reads_pure _) before
  | some name =>
      dsimp only
      rw [locate]
      refine Effect.Relates.bind .trans (reads_report _) (fun _ => ?_) before
      refine .bind .trans (reads_happen first) fun _ => .bind .trans reads_get fun state => ?_
      cases sandbox.recorded.collaborators.lookup name state.surroundings with
      | none =>
          exact .bind .trans (reads_pure _) fun _ => .bind .trans (reads_tell _) fun _ =>
            reads_pure _
      | some found =>
          exact .bind .trans (reads_report _) fun _ => .bind .trans (reads_report _) fun _ =>
            .bind .trans (reads_pure _) fun _ => .bind .trans (reads_tell _) fun _ =>
              reads_pure _

/-- No stage but the one that writes changes the session, and it gives others what the session
tells. -/
theorem reads_step (sources : List String) {stage : Stage} (noWriting : stage ≠ .writing)
    (before : State (Recorded Memory)) :
    Reads sandbox.workspace before.session before
      (sandbox.recorded.step sources stage before).2 := by
  cases stage with
  | writing => exact absurd rfl noWriting
  | compiling => exact sandbox.reads_compile before
  | executing =>
      rw [step, bind_get]
      cases entry : before.session.entry with
      | none => exact .refl before
      | some name => exact sandbox.reads_executeEntry entry before
  | noEntryPoint =>
      exact Effect.Relates.bind .trans (reads_report _) (fun _ => reads_pure _) before
  | ingesting =>
      refine Effect.Relates.bind .trans (sandbox.reads_synchronize _) (fun _ => ?_) before
      exact .bind .trans (reads_report _) fun _ => reads_pure _
  | locating =>
      have looked := sandbox.reads_locateFirst before
      rcases done : sandbox.recorded.locateFirst before with ⟨failure | member, after⟩ <;>
        rw [done] at looked
      · rw [step, Effect.bind_of_error done]
        exact looked
      · rw [step, Effect.bind_of_ok done]
        exact looked
  | done => exact .refl before
  | aborted => exact .refl before

/-- The stages behind the one that writes do not change the session either, however many of them
a run goes through. -/
theorem reads_runFrom (sources : List String) {stage : Stage} (noWriting : stage ≠ .writing)
    (before : State (Recorded Memory)) :
    Reads sandbox.workspace before.session before
      (sandbox.recorded.runFrom sources stage before).2 := by
  induction remaining : stage.remaining using Nat.strongRecOn generalizing stage before with
  | ind remaining ih =>
      have entering : Reads sandbox.workspace before.session before (before.entering stage) :=
        ⟨.of_same rfl rfl, rfl⟩
      have stepped : Reads sandbox.workspace before.session before
          (sandbox.recorded.enter sources stage before).2 :=
        entering.trans (sandbox.reads_step sources noWriting (before.entering stage))
      rw [runFrom]
      rcases entered : sandbox.recorded.enter sources stage before with ⟨failure | led, between⟩
      all_goals rw [entered] at stepped
      · rw [Effect.bind_of_error entered]
        exact stepped
      · rw [Effect.bind_of_ok entered]
        cases led with
        | stop outcome => exact stepped
        | advance next later =>
            have noWriting : next ≠ .writing := by
              rintro rfl
              cases stage <;> simp [Stage.remaining] at later
            have rest := ih next.remaining (remaining ▸ later) noWriting between rfl
            rw [stepped.session] at rest
            exact stepped.trans rest

theorem gives_step (sources : List String) (stage : Stage) (before : State (Recorded Memory)) :
    Gives sandbox.workspace before.session before
      (sandbox.recorded.step sources stage before).2 := by
  by_cases isWriting : stage = .writing
  · subst isWriting
    exact Effect.Relates.bind .trans (sandbox.gives_writeSources _ sources)
      (fun _ _ => .of_same rfl rfl) before
  · exact (sandbox.reads_step sources isWriting before).toGives

/-- The state after these stages, one after another, whatever each of them leads to. -/
def goThrough (sources : List String) : List Stage → State Memory → State Memory
  | [], state => state
  | stage :: others, state => goThrough sources others (sandbox.step sources stage state).2

/-- What a stage writes: nothing, or the sources up to the first that cannot be written. -/
def writes (sources : List String) (stage : Stage) (disk : Disk) : List Snippet :=
  if stage = .writing then Attempt.written (sandbox.attempts sources disk) else []

/-- What is written in these stages, in order. -/
def writtenIn (sources : List String) : List Stage → State Memory → List Snippet
  | [], _ => []
  | stage :: others, state =>
      sandbox.writes sources stage state.surroundings.disk ++
        writtenIn sources others (sandbox.step sources stage state).2

variable {sandbox}

theorem tells_step {sources : List String} {stage : Stage} {state : State Memory}
    {written : List Snippet} (tells : state.session.Tells sandbox.collaborators.detect written) :
    (sandbox.step sources stage state).2.session.Tells sandbox.collaborators.detect
      (written ++ sandbox.writes sources stage state.surroundings.disk) := by
  by_cases isWriting : stage = .writing
  · subst isWriting
    have judged : ∀ snippet ∈ sandbox.writes sources .writing state.surroundings.disk,
        snippet.isEntry = sandbox.collaborators.detect snippet.text :=
      fun _ isMember => (named_of_mem_written isMember).1
    rcases wrote : sandbox.writeSources sources state with ⟨failure | done, after⟩
    · rw [step, Effect.bind_of_error wrote]
      exact (writeSources_done wrote).2.1 ▸ tells.foldl_record judged
    · rw [step, Effect.bind_of_ok wrote]
      exact (writeSources_done wrote).2.1 ▸ tells.foldl_record judged
  · have same := (sandbox.reads_step sources isWriting state.recorded).session
    have mirrored := sandbox.mirrors_step sources stage state.recorded
    rw [State.plain_recorded] at mirrored
    rw [writes, if_neg isWriting, List.append_nil, mirrored, State.plain_session, same]
    exact tells

/-- After any stages the session tells also what was written in them. -/
theorem tells_goThrough {sources : List String} {state : State Memory} {written : List Snippet}
    (tells : state.session.Tells sandbox.collaborators.detect written) (stages : List Stage) :
    (sandbox.goThrough sources stages state).session.Tells sandbox.collaborators.detect
      (written ++ sandbox.writtenIn sources stages state) := by
  induction stages generalizing state written with
  | nil => simpa [goThrough, writtenIn] using tells
  | cons stage others ih =>
      rw [goThrough, writtenIn, ← List.append_assoc]
      exact ih (tells_step tells)

end Sandbox

/-- The member to show of a class: the first compiled one in the order of declaration, or none
where the class is unknown or has no compiled member. -/
inductive IsFirstCompiled : Option ClassReport → Option Member → Prop
  | unknown : IsFirstCompiled none none
  | uncompiled {report : ClassReport}
      (all : ∀ member ∈ report.members, member.compiled = false) :
      IsFirstCompiled (some report) none
  | compiled {report : ClassReport} {member : Member} {earlier later : List Member}
      (declared : report.members = earlier ++ member :: later)
      (isCompiled : member.compiled = true)
      (isFirst : ∀ other ∈ earlier, other.compiled = false) :
      IsFirstCompiled (some report) (some member)

theorem isFirstCompiled_bind (found : Option ClassReport) :
    IsFirstCompiled found (found.bind ClassReport.firstCompiled) := by
  cases found with
  | none => exact .unknown
  | some report =>
      rw [Option.bind_some, ClassReport.firstCompiled]
      cases sought : report.members.find? Member.compiled with
      | none => exact .uncompiled (by simpa using List.find?_eq_none.mp sought)
      | some member =>
          obtain ⟨isCompiled, earlier, later, declared, isFirst⟩ :=
            List.find?_eq_some_iff_append.mp sought
          exact .compiled declared isCompiled (by simpa using isFirst)

/-- What the next stage is given in a state that is reached by stages of these sources. -/
structure Sandbox.HandsOver (sandbox : Sandbox Memory) (sources : List String)
    (state : State Memory) : Prop where
  /-- Every stage gives others nothing but what the session tells. -/
  exchanges : ∀ stage,
    ∀ exchange ∈ (sandbox.recorded.step sources stage state.recorded).2.exchanges,
    exchange.IsOf sandbox.workspace state.session
  events : ∀ stage, ∃ added, (sandbox.step sources stage state).2.events = state.events ++ added ∧
    ∀ event ∈ added, event.IsOf sandbox.workspace state.session
  /-- The compiler is called once. -/
  compiles : ∃ reply, (sandbox.recorded.step sources .compiling state.recorded).2.exchanges =
    [.compile state.session.files sandbox.workspace.classDir reply]
  /-- A member is found in the class that is looked up, and the audience is led to it. -/
  locates : ∃ member,
    IsFirstCompiled
      (state.session.first.bind fun name => sandbox.collaborators.lookup name state.surroundings)
      member ∧
    (sandbox.step sources .locating state).1 = .ok (.stop (.located member)) ∧
    (sandbox.step sources .locating state).2.remarks =
      state.remarks ++ lookingFor state.session.first member

theorem Sandbox.handsOver (sandbox : Sandbox Memory) (sources : List String)
    (state : State Memory) : sandbox.HandsOver sources state where
  exchanges stage exchange isMember := by
    obtain ⟨added, behind, areOf⟩ := (sandbox.gives_step sources stage state.recorded).exchanges
    rw [behind] at isMember
    exact areOf exchange isMember
  events stage := by
    have mirrored := sandbox.mirrors_step sources stage state.recorded
    rw [State.plain_recorded] at mirrored
    rw [mirrored, State.plain_events]
    exact (sandbox.gives_step sources stage state.recorded).events
  compiles := by
    rcases done : sandbox.recorded.step sources .compiling state.recorded with ⟨answer, after⟩
    cases passes_step done with
    | uncompiled answered adds config => exact ⟨_, adds.exchanges⟩
    | rejected answered adds config => exact ⟨_, adds.exchanges⟩
    | compiled answered adds config session leads => exact ⟨_, adds.exchanges⟩
    | finished terminal same => simp at terminal
  locates := by
    have mirrored := sandbox.mirrors_step sources .locating state.recorded
    rw [State.plain_recorded] at mirrored
    rw [mirrored]
    rcases done : sandbox.recorded.step sources .locating state.recorded with ⟨answer, after⟩
    cases passes_step done with
    | located shown adds outside config session =>
        refine ⟨_, ?_, rfl, adds.remarks⟩
        have inClass := isFirstCompiled_bind
          (state.session.first.bind fun name =>
            sandbox.collaborators.lookup name state.surroundings)
        rw [Option.bind_assoc] at inClass
        exact shown ▸ inClass
    | finished terminal same => simp at terminal

/-- In a state that any stages have led to from a new session, in any order and however each of
them ended, the session tells what was written in them, and it is what the next stage is
given. -/
theorem names_reach_stages (sandbox : Sandbox Memory) (sources : List String)
    (surroundings : Surroundings Memory) (config : Config) (stages : List Stage) :
    let start := State.start surroundings config
    let reached := sandbox.goThrough sources stages start
    reached.session.Tells sandbox.collaborators.detect (sandbox.writtenIn sources stages start) ∧
      sandbox.HandsOver sources reached := by
  intro start reached
  have new : start.session.Tells sandbox.collaborators.detect [] := .new
  exact ⟨Sandbox.tells_goThrough new stages, sandbox.handsOver sources reached⟩

end SnippetSandbox.Run
