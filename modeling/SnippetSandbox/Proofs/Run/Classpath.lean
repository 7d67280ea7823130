import SnippetSandbox.Proofs.Run.Completion
import SnippetSandbox.Proofs.Run.FreshLog
import SnippetSandbox.Proofs.Run.Handover
import SnippetSandbox.Proofs.Run.Registration
import SnippetSandbox.Run.Tools

/-!
# What is executed, and with which classpath

The class directory leads every classpath and is not in it a second time, whether or not it is
among the configured locations.  So its registration cannot be noticed by an execution, and the
same sources are executed with the same arguments for as long as nobody else changes the
configuration.  A place with the separator in it would be taken for two others, which is why
nothing is executed with it.
-/

namespace SnippetSandbox.Run

open FileSystem Supervision

variable {Memory : Type}

namespace Classpath

/-- The places are the class directory and, behind it, the locations but that directory, in
their order and as often as they are listed. -/
structure IsOf (classDir : String) (locations places : List String) : Prop where
  first : places.head? = some classDir
  once : places.count classDir = 1
  inOrder : places.tail.Sublist locations
  others : ∀ location, location ≠ classDir → places.count location = locations.count location

theorem isOf_entries (classDir : String) (locations : List String) :
    IsOf classDir locations (entries classDir locations) where
  first := rfl
  once := by
    have notBehind : classDir ∉ locations.filter (· ≠ classDir) := by simp
    rw [entries, List.count_cons_self, List.count_eq_zero_of_not_mem notBehind]
  inOrder := List.filter_sublist
  others := by
    intro location isOther
    rw [entries, List.count_cons_of_ne (Ne.symm isOther)]
    exact List.count_filter (by simpa using isOther)

theorem entries_addMissing (classDir : String) (locations : List String) :
    entries classDir (addMissing locations [classDir]) = entries classDir locations := by
  rw [addMissing, addMissing]
  split
  next => rfl
  next => simp [entries, addMissing]

theorem join_of_separator {places : List String} {place : String} (isPlace : place ∈ places)
    (separated : ':' ∈ place.toList) : join places = .error .separatorInClasspath := by
  rw [join, if_pos]
  rw [List.any_eq_true]
  exact ⟨place, isPlace, decide_eq_true separated⟩

theorem splitOn_join {places : List String} (some : places ≠ [])
    (free : ∀ place ∈ places, ':' ∉ place.toList) :
    ((Text.splitOn ':' (":".intercalate places).toList).map String.ofList) = places :=
  Text.splitOn_intercalate rfl free some

end Classpath

section Registered

variable (sandbox : Sandbox Memory) (archive : Option String) (config : Config)

theorem places_register :
    places sandbox (register sandbox.workspace archive config).1 = places sandbox config :=
  Classpath.entries_addMissing _ _

theorem flags_register :
    flags sandbox (register sandbox.workspace archive config).1 = flags sandbox config :=
  rfl

end Registered

namespace Exchange

/-- Whatever is executed in this exchange is executed with such arguments. -/
def ExecutesWith (wanted : String → List String → List String → Prop) : Exchange → Prop
  | .execute entry classpath options _ => wanted entry classpath options
  | _ => True

theorem ExecutesWith.and {one two : String → List String → List String → Prop}
    {exchange : Exchange} (first : exchange.ExecutesWith one)
    (second : exchange.ExecutesWith two) :
    exchange.ExecutesWith fun entry classpath options =>
      one entry classpath options ∧ two entry classpath options := by
  cases exchange with
  | execute => exact ⟨first, second⟩
  | compile | save | forget | ingest => trivial

theorem IsOf.executesWith {workspace : Workspace} {session : Session} {exchange : Exchange}
    (isOf : exchange.IsOf workspace session) :
    exchange.ExecutesWith fun entry _ _ => session.entry = some entry := by
  cases exchange with
  | execute => exact isOf
  | compile | save | forget | ingest => trivial

end Exchange

theorem executesWith_of_noExecution {wanted : String → List String → List String → Prop}
    {exchanges : List Exchange} (noExecution : exchanges.any Exchange.isExecution = false) :
    ∀ exchange ∈ exchanges, exchange.ExecutesWith wanted := by
  refine forall_of_noExecution noExecution fun exchange other => ?_
  cases exchange with
  | execute => cases other
  | compile | save | forget | ingest => trivial

section Arguments

variable {sandbox : Sandbox Memory} {before after : State (Recorded Memory)}

/-- Everything was executed with the classpath and the flags of the first configuration, and
those of the configuration in memory are the same. -/
structure KeepsArguments (sandbox : Sandbox Memory) (initial : Config)
    (state : State (Recorded Memory)) : Prop where
  places : places sandbox state.config = places sandbox initial
  flags : flags sandbox state.config = flags sandbox initial
  executed : ∀ exchange ∈ state.exchanges, exchange.ExecutesWith fun _ classpath options =>
    classpath = Run.places sandbox initial ∧ options = Run.flags sandbox initial

namespace KeepsArguments

variable {initial : Config} {added : List Exchange}

theorem add (keeps : KeepsArguments sandbox initial before)
    (adds : after.exchanges = before.exchanges ++ added)
    (executed : ∀ exchange ∈ added, exchange.ExecutesWith fun _ classpath options =>
      classpath = Run.places sandbox before.config ∧ options = Run.flags sandbox before.config)
    (config : after.config = before.config) : KeepsArguments sandbox initial after where
  places := config ▸ keeps.places
  flags := config ▸ keeps.flags
  executed := by
    rw [keeps.places, keeps.flags] at executed
    rw [adds, List.forall_mem_append]
    exact ⟨keeps.executed, executed⟩

theorem synchronizes {answer : Except Failure Bool} (keeps : KeepsArguments sandbox initial before)
    (tries : Synchronizes sandbox before after answer)
    (config : after.config = (register sandbox.workspace sandbox.archive before.config).1) :
    KeepsArguments sandbox initial after where
  places := by
    rw [config, places_register]
    exact keeps.places
  flags := by
    rw [config, flags_register]
    exact keeps.flags
  executed := by
    obtain ⟨exchanges, adds, noExecution⟩ := tries.executesNothing
    rw [adds, List.forall_mem_append]
    exact ⟨keeps.executed, executesWith_of_noExecution noExecution⟩

end KeepsArguments

/-- Whatever a sandbox goes through, the arguments stay those of the first configuration. -/
theorem lasts_keepsArguments (sandbox : Sandbox Memory) (initial : Config) :
    Lasts sandbox (KeepsArguments sandbox initial) := by
  refine .of_toolCalls (fun keeps exchanges config => ?_)
    (fun {_ _ exchange} keeps adds isCall config => ?_)
    fun keeps tries config => keeps.synchronizes tries config
  · exact keeps.add (exchanges.trans (List.append_nil _).symm) (List.forall_mem_nil _) config
  · refine keeps.add adds (List.forall_mem_singleton.mpr ?_) config
    cases exchange with
    | execute => exact ⟨isCall.1, isCall.2.1⟩
    | compile | save | forget | ingest => trivial

end Arguments

section Program

variable {sandbox : Sandbox Memory} {sources : List String}

/-- The name of the program that these texts make: that of the last one with an entry point. -/
def Sandbox.programOf (sandbox : Sandbox Memory) (sources : List String) : Option String := do
  let text ← (sources.filter sandbox.collaborators.detect).getLast?
  let snippet ← (Snippet.ofText sandbox.workspace.sourceDir sandbox.collaborators.detect
    text).toOption
  return snippet.name

theorem programOf_written {written : List Snippet}
    (named : ∀ snippet ∈ written, Snippet.ofText sandbox.workspace.sourceDir
      sandbox.collaborators.detect snippet.text = .ok snippet) :
    (written.filter Snippet.isEntry).getLast?.map Snippet.name =
      sandbox.programOf (written.map Snippet.text) := by
  have judged : written.filter Snippet.isEntry =
      written.filter (sandbox.collaborators.detect ∘ Snippet.text) := by
    apply List.filter_congr
    intro snippet isMember
    exact (Snippet.ofText_done (named snippet isMember)).2.1
  rw [Sandbox.programOf, List.filter_map, ← judged, List.getLast?_map]
  cases last : (written.filter Snippet.isEntry).getLast? with
  | none => rfl
  | some snippet =>
      have isMember : snippet ∈ written :=
        (List.mem_filter.mp (List.mem_of_getLast? last)).1
      simp [named snippet isMember, Except.toOption]

theorem entry_written {before after : State (Recorded Memory)} (new : before.session = {})
    (wrote : sandbox.recorded.writeSources sources before = (.ok (), after)) :
    after.session.entry = sandbox.programOf sources := by
  obtain ⟨-, session, all⟩ := writeSources_done wrote
  have named : ∀ snippet ∈ Attempt.written (sandbox.attempts sources before.surroundings.disk),
      Snippet.ofText sandbox.workspace.sourceDir sandbox.collaborators.detect snippet.text =
        .ok snippet :=
    fun _ isMember => ofText_of_mem_written isMember
  have program := programOf_written named
  change after.session = (Attempt.written (sandbox.attempts sources _)).foldl _ _ at session
  have texts : (Attempt.written (sandbox.attempts sources before.surroundings.disk)).map
      Snippet.text = sources := all rfl
  obtain ⟨-, entry⟩ := foldl_record
    (Attempt.written (sandbox.attempts sources before.surroundings.disk)) before.session
  rw [session, entry, program, texts, new, Option.or_none]

theorem executes_run {before after : State (Recorded Memory)} {answer : Except Failure Outcome}
    (done : sandbox.recorded.run sources before = (answer, after)) :
    ∃ added, after.exchanges = before.exchanges ++ added ∧
      ∀ exchange ∈ added, exchange.ExecutesWith fun entry _ _ =>
        sandbox.programOf sources = some entry := by
  have nothing {state : State (Recorded Memory)} (same : state.exchanges = before.exchanges) :
      ∃ added, state.exchanges = before.exchanges ++ added ∧
        ∀ exchange ∈ added, exchange.ExecutesWith fun entry _ _ =>
          sandbox.programOf sources = some entry :=
    ⟨[], same.trans (List.append_nil _).symm, List.forall_mem_nil _⟩
  rw [Sandbox.run] at done
  rcases Effect.bind_done done with ⟨failure, unready, rfl⟩ | ⟨_, ready, prepared, done⟩
  · obtain ⟨adds, -⟩ := (quiet_onDisk _).states unready
    exact nothing (adds.exchanges.trans (List.append_nil _))
  obtain ⟨readied, -⟩ := (quiet_onDisk _).states prepared
  rw [bind_modify, Sandbox.runFrom] at done
  rcases Effect.bind_done done with ⟨failure, unwritten, rfl⟩ | ⟨led, between, entered, done⟩
  · change sandbox.recorded.step sources .writing _ = _ at unwritten
    rcases Effect.bind_done unwritten with ⟨_, wrote, -⟩ | ⟨_, _, _, ⟨⟩⟩
    obtain ⟨adds, -⟩ := (quiet_writeSources sandbox sources).states wrote
    refine nothing ?_
    rw [adds.exchanges, List.append_nil]
    exact readied.exchanges.trans (List.append_nil _)
  · -- Behind the writing the session stays, so it tells the executor what was written.
    change sandbox.recorded.step sources .writing _ = _ at entered
    obtain ⟨⟨⟩, written, wrote, finished⟩ := Effect.bind_ok entered
    cases finished
    obtain ⟨adds, -⟩ := (quiet_writeSources sandbox sources).states wrote
    have program := entry_written rfl wrote
    have reads : Reads sandbox.workspace between.session between
        (sandbox.recorded.runFrom sources .compiling between).2 :=
      sandbox.reads_runFrom sources (by decide) between
    dsimp only at done
    rw [done] at reads
    obtain ⟨exchanges, added, areOf⟩ := reads.exchanges
    refine ⟨exchanges, ?_, fun exchange isMember => ?_⟩
    · rw [added, adds.exchanges, List.append_nil]
      exact congrArg (· ++ exchanges) (readied.exchanges.trans (List.append_nil _))
    · rw [← program]
      exact (areOf exchange isMember).executesWith

/-- Nothing happens but runs of these sources, synchronizations and changes of the disk. -/
def Episode.Repeats (sources : List String) : Episode → Prop
  | .run others => others = sources
  | .step .. => False
  | .synchronize | .disturbance _ => True

theorem executes_play {episodes : List Episode}
    (repeats : ∀ episode ∈ episodes, episode.Repeats sources) {state : State (Recorded Memory)}
    (soFar : ∀ exchange ∈ state.exchanges, exchange.ExecutesWith fun entry _ _ =>
      sandbox.programOf sources = some entry) :
    ∀ exchange ∈ (sandbox.recorded.play episodes state).exchanges,
      exchange.ExecutesWith fun entry _ _ => sandbox.programOf sources = some entry := by
  induction episodes generalizing state with
  | nil => exact soFar
  | cons episode episodes ih =>
      obtain ⟨one, others⟩ := List.forall_mem_cons.mp repeats
      refine ih others ?_
      cases episode with
      | run otherSources =>
          cases one
          rcases done : sandbox.recorded.run sources state with ⟨answer, after⟩
          obtain ⟨added, adds, executed⟩ := executes_run done
          rw [Episode.play, done, adds, List.forall_mem_append]
          exact ⟨soFar, executed⟩
      | step otherSources stage => exact one.elim
      | synchronize =>
          rcases done : sandbox.recorded.synchronize state with ⟨answer, after⟩
          obtain ⟨exchanges, adds, noExecution⟩ := (synchronizes_done done).1.executesNothing
          rw [Episode.play, done, adds, List.forall_mem_append]
          exact ⟨soFar, executesWith_of_noExecution noExecution⟩
      | disturbance change => exact soFar

end Program

section Executing

variable {sandbox : Sandbox Memory} {sources : List String} {entry : String}

theorem step_of_separator {state : State Memory} (isEntry : state.session.entry = some entry)
    {place : String} (isPlace : place ∈ places sandbox state.config)
    (separated : ':' ∈ place.toList) :
    sandbox.step sources .executing state = (.error (.toolchain .separatorInClasspath),
      state.noting (.told (.progress ("Executing: " ++ entry)))) := by
  have refused := Classpath.join_of_separator isPlace separated
  rw [places] at refused
  rw [Sandbox.step, bind_get, isEntry]
  dsimp only
  rw [Sandbox.executeEntry, bind_get, bind_report, refused]
  rfl

theorem removeOldLog_failed {before after : State Memory} {failure : Failure}
    (failed : sandbox.removeOldLog before = (.error failure, after)) :
    before.surroundings.disk.pathExists sandbox.workspace.logFile = true ∧ ∃ cause,
      (removeFile sandbox.workspace.logFile before.surroundings.disk).1 = .error cause ∧
        failure = .fileSystem sandbox.workspace.logFile cause := by
  rw [Sandbox.removeOldLog, bind_ask] at failed
  split at failed
  next present =>
    obtain ⟨answered, -⟩ := Prod.mk.inj failed
    obtain ⟨told, removal, reported⟩ := reportedFor_done (Prod.ext answered rfl)
    cases told with
    | ok => cases reported
    | error cause => exact ⟨present, cause, congrArg Prod.fst removal, Except.error.inj reported⟩
  next => cases failed

/-- Without a separator the executor is called, unless an old log cannot be removed. -/
theorem step_of_free {before after : State (Recorded Memory)}
    {answer : Except Failure (Step .executing)} (isEntry : before.session.entry = some entry)
    (free : ∀ place ∈ places sandbox before.config, ':' ∉ place.toList)
    (done : sandbox.recorded.step sources .executing before = (answer, after)) :
    (after.exchanges = before.exchanges ∧
      before.surroundings.disk.pathExists sandbox.workspace.logFile = true ∧ ∃ cause,
        (removeFile sandbox.workspace.logFile before.surroundings.disk).1 = .error cause ∧
          answer = .error (.fileSystem sandbox.workspace.logFile cause)) ∨
    ∃ reply, after.exchanges = before.exchanges ++
      [.execute entry (places sandbox before.config) (flags sandbox before.config) reply] := by
  have joined : Classpath.join (Classpath.entries sandbox.recorded.workspace.classDir
      before.config.classLocations) = _ := Classpath.join_of_free free
  rw [Sandbox.step, bind_get, isEntry] at done
  dsimp only at done
  rw [Sandbox.executeEntry, bind_get, bind_report, joined] at done
  dsimp only at done
  rw [bind_report, bind_report] at done
  rcases Effect.bind_done done with ⟨failure, failed, rfl⟩ | ⟨_, removed, removal, done⟩
  · obtain ⟨adds, -⟩ := (quiet_removeOldLog sandbox).states failed
    obtain ⟨present, cause, stuck, rfl⟩ := removeOldLog_failed failed
    exact .inl ⟨adds.exchanges.trans (List.append_nil _), present, cause, stuck, rfl⟩
  · obtain ⟨adds, -⟩ := (quiet_removeOldLog sandbox).states removal
    have same : removed.exchanges = before.exchanges := adds.exchanges.trans (List.append_nil _)
    refine .inr ?_
    rw [← same]
    rw [bind_ask, bind_happen] at done
    rcases bind_call_done done with
      ⟨failure, left, answered, rfl, rfl⟩ | ⟨⟨success, errors⟩, left, answered, done⟩
    · exact ⟨_, rfl⟩
    · rw [bind_report] at done
      cases success with
      | false =>
          cases done
          exact ⟨_, rfl⟩
      | true =>
          cases done
          exact ⟨_, rfl⟩

/-- How the stage of executing goes where this program is to be executed. -/
structure Sandbox.HandsArguments (sandbox : Sandbox Memory) (sources : List String)
    (state : State Memory) (entry : String) : Prop where
  classpath : Classpath.IsOf sandbox.workspace.classDir state.config.classLocations
    (places sandbox state.config)
  /-- With a separator in a place nothing is executed, and nothing changes but the progress. -/
  refused : (∃ place ∈ places sandbox state.config, ':' ∈ place.toList) →
    sandbox.step sources .executing state = (.error (.toolchain .separatorInClasspath),
      state.noting (.told (.progress ("Executing: " ++ entry)))) ∧
    sandbox.exchangesOf [.step sources .executing] state = []
  /-- Without one the program is executed, unless an old log cannot be removed. -/
  executed : (∀ place ∈ places sandbox state.config, ':' ∉ place.toList) →
    (sandbox.exchangesOf [.step sources .executing] state = [] ∧
      state.surroundings.disk.pathExists sandbox.workspace.logFile = true ∧ ∃ cause,
        (removeFile sandbox.workspace.logFile state.surroundings.disk).1 = .error cause ∧
          (sandbox.step sources .executing state).1 =
            .error (.fileSystem sandbox.workspace.logFile cause)) ∨
    ∃ reply, sandbox.exchangesOf [.step sources .executing] state =
      [.execute entry (places sandbox state.config) (flags sandbox state.config) reply]
  /-- The runtime is given the places as one text, in which they are found again. -/
  launched : (∀ place ∈ places sandbox state.config, ':' ∉ place.toList) → ∃ classpath : String,
    (Text.splitOn ':' classpath.toList).map String.ofList = places sandbox state.config ∧
    ∀ machine toolchain limit, executeWith machine toolchain limit entry
        (places sandbox state.config) (flags sandbox state.config) = do
      return .ofFinished limit (← runBounded machine
        (machine.command toolchain.runtime
          (flags sandbox state.config ++ ["-cp", classpath, entry])) limit)

theorem handsArguments {state : State Memory} (isEntry : state.session.entry = some entry) :
    sandbox.HandsArguments sources state entry where
  classpath := Classpath.isOf_entries _ _
  refused := by
    rintro ⟨place, isPlace, separated⟩
    have recorded : sandbox.recorded.step sources .executing state.recorded = _ :=
      step_of_separator isEntry isPlace separated
    exact ⟨step_of_separator isEntry isPlace separated,
      congrArg (fun done => State.exchanges (Prod.snd done)) recorded⟩
  executed := by
    intro free
    have mirrored := sandbox.mirrors_step sources .executing state.recorded
    rw [State.plain_recorded] at mirrored
    rcases done : sandbox.recorded.step sources .executing state.recorded with ⟨answer, after⟩
    have exchanges : sandbox.exchangesOf [.step sources .executing] state = after.exchanges :=
      congrArg (fun done => State.exchanges (Prod.snd done)) done
    rw [mirrored, done, exchanges]
    exact step_of_free isEntry free done
  launched := by
    intro free
    refine ⟨_, Classpath.splitOn_join (by simp [places, Classpath.entries]) free, ?_⟩
    intro machine toolchain limit
    rw [executeWith, Classpath.join_of_free free]
    rfl

end Executing

/-- A program is executed with the class directory in front of its classpath and the configured
locations behind it, or with a separator in one of them not at all.  Registration changes
neither the classpath nor the flags.  So the runs of the same sources, however often they are
repeated, execute the same program with the same arguments, which are those of the
configuration that they began with. -/
theorem arguments_last (sandbox : Sandbox Memory) :
    (∀ sources state entry, state.session.entry = some entry →
      sandbox.HandsArguments sources state entry) ∧
    (∀ archive config,
      let registered := (register sandbox.workspace archive config).1
      places sandbox registered = places sandbox config ∧
        flags sandbox registered = flags sandbox config) ∧
    ∀ (sources : List String) (episodes : List Episode),
      (∀ episode ∈ episodes, episode.Repeats sources) → ∀ state,
      ∀ exchange ∈ sandbox.exchangesOf episodes state,
        exchange.ExecutesWith fun entry classpath options =>
          sandbox.programOf sources = some entry ∧
            classpath = places sandbox state.config ∧ options = flags sandbox state.config := by
  refine ⟨fun sources state entry isEntry => handsArguments isEntry, fun archive config => ?_,
    fun sources episodes repeats state exchange isMember => ?_⟩
  · exact ⟨places_register sandbox archive config, flags_register sandbox archive config⟩
  · have nothing : ∀ exchange ∈ state.recorded.exchanges, exchange.ExecutesWith fun entry _ _ =>
        sandbox.programOf sources = some entry := List.forall_mem_nil _
    have program := executes_play repeats nothing exchange isMember
    have begun : KeepsArguments sandbox state.config state.recorded :=
      ⟨rfl, rfl, List.forall_mem_nil _⟩
    have keeps := (lasts_keepsArguments sandbox state.config).play episodes begun
    exact program.and (keeps.executed exchange isMember)

end SnippetSandbox.Run
