import SnippetSandbox.Proofs.Run.Completion
import SnippetSandbox.Proofs.Run.Handover
import SnippetSandbox.Proofs.Workspace.Reset

/-!
# Where a run stops that cannot write a source

The sources of a run are written one after another, and the first that cannot be written is the
end of the run.  What was written before it is on the disk, in the session and among the
progress lines; of the source itself and of those behind it nothing is.  A text without names
has not even touched the disk.
-/

namespace SnippetSandbox

open FileSystem

/-- What the audience is told about a snippet that was written. -/
def Snippet.notices (snippet : Snippet) : List Run.Event :=
  (if snippet.isEntry then [.told (.progress ("Found main method in " ++ snippet.name))] else []) ++
    [.told (.progress ("Writing source file: " ++ snippet.name ++ ".java"))]

namespace Snippet

variable {sourceDir text : String} {detector : Detector} {texts : List String}
variable {before after : Disk} {snippets : List Snippet}

theorem Writes.map_text (writes : Writes sourceDir detector texts before snippets after) :
    snippets.map Snippet.text = texts := by
  induction writes with
  | nothing => rfl
  | more wrote writes ih =>
      rw [List.map_cons, ih, (ofText_done (write_done wrote).1).1]

theorem Writes.holds_paths {earlier : List Snippet}
    (writes : Writes sourceDir detector texts before snippets after)
    (holds : ∀ snippet ∈ earlier, before.Holds earlier snippet.path) :
    ∀ snippet ∈ earlier ++ snippets, after.Holds (earlier ++ snippets) snippet.path := by
  induction writes generalizing earlier with
  | nothing => simpa using holds
  | more wrote writes ih =>
      have rest := ih (Disk.holds_write holds wrote)
      rwa [List.append_assoc] at rest

/-- A text without names fails before anything is written, and no other text fails like this. -/
theorem write_parse_failed {problem : Source.NamingProblem} {left : Disk}
    (failed : write sourceDir detector text before = (.error (.parse problem), left)) :
    ofText sourceDir detector text = .error problem ∧ left = before := by
  rw [write] at failed
  cases named : ofText sourceDir detector text with
  | error found =>
      rw [named] at failed
      cases failed
      exact ⟨rfl, rfl⟩
  | ok snippet =>
      -- The disk refuses with failures of another kind.
      rw [named] at failed
      rcases Effect.bind_done failed with ⟨failure, refused, same⟩ | ⟨_, between, made, failed⟩
      · obtain ⟨told, -, reported⟩ := reportedFor_done refused
        cases told <;> cases reported
        cases same
      · rcases Effect.bind_done failed with ⟨failure, refused, same⟩ | ⟨_, _, stored, finished⟩
        · obtain ⟨told, -, reported⟩ := reportedFor_done refused
          cases told <;> cases reported
          cases same
        · cases finished

end Snippet

namespace Run

variable {Memory : Type} {sandbox : Sandbox Memory}
variable {earlier later : List String} {bad : String} {snippets : List Snippet}

/-- The state after snippets were written, which led to this disk. -/
def State.wrote (state : State Memory) (snippets : List Snippet) (disk : Disk) : State Memory :=
  { state with
    surroundings := { state.surroundings with disk }
    session := snippets.foldl Session.record state.session
    events := state.events ++ snippets.flatMap Snippet.notices }

theorem writeSources_append {state : State Memory} {between : Disk}
    (writes : Snippet.Writes sandbox.workspace.sourceDir sandbox.collaborators.detect earlier
      state.surroundings.disk snippets between) (others : List String) :
    sandbox.writeSources (earlier ++ others) state =
      sandbox.writeSources others (state.wrote snippets between) := by
  generalize started : state.surroundings.disk = disk at writes
  induction writes generalizing state with
  | nothing =>
      subst started
      simp [State.wrote]
  | @more text rest snippet written _ after _ wrote writes ih =>
      subst started
      rw [List.cons_append, Sandbox.writeSources, Effect.bind_of_ok (onDisk_of_done wrote)]
      dsimp only
      split
      next isEntry =>
        rw [bind_report, bind_report, bind_modify, ih rfl]
        simp [State.wrote, State.noting, Snippet.notices, isEntry]
      next noEntry =>
        rw [bind_report, bind_modify, ih rfl]
        simp [State.wrote, State.noting, Snippet.notices, noEntry]

/-- A run that cannot write a source ends there, whatever was to follow. -/
theorem run_eq_of_unwritten {state : State Memory} {fresh : Bool} {ready between left : Disk}
    {failure : Failure}
    (readies : sandbox.workspace.ensureReady sandbox.seed state.surroundings.disk =
      (.ok fresh, ready))
    (writes : Snippet.Writes sandbox.workspace.sourceDir sandbox.collaborators.detect earlier
      ready snippets between)
    (fails : Snippet.write sandbox.workspace.sourceDir sandbox.collaborators.detect bad between =
      (.error failure, left)) :
    sandbox.run (earlier ++ bad :: later) state =
      (.error failure,
        { state with session := {}, stages := [.writing] }.wrote snippets left) := by
  have refused : onDisk (Snippet.write sandbox.workspace.sourceDir sandbox.collaborators.detect
      bad) ({ state with session := {}, stages := [.writing] }.wrote snippets between) = _ :=
    onDisk_of_done fails
  rw [Sandbox.run, Effect.bind_of_ok (onDisk_of_done readies), bind_modify, Sandbox.runFrom]
  refine Effect.bind_of_error ?_
  change sandbox.step _ .writing _ = _
  refine Effect.bind_of_error ?_
  rw [writeSources_append writes, Sandbox.writeSources]
  exact Effect.bind_of_error refused

/-- The state in which a run ends that could write these snippets and no more. -/
structure IsStopped (sandbox : Sandbox Memory) (earlier : List String) (snippets : List Snippet)
    (before after : State Memory) : Prop where
  texts : snippets.map Snippet.text = earlier
  session : after.session.snippets = snippets
  tells : after.session.Tells sandbox.collaborators.detect snippets
  events : after.events = before.events ++ snippets.flatMap Snippet.notices
  config : after.config = before.config
  memory : after.surroundings.memory = before.surroundings.memory
  stages : after.stages = [.writing]

/-- Where a source is the first that cannot be written, the run ends with its failure.  The
sources before it are in their files, in the session and among the progress, those behind it
make no difference, and nobody else is called.  A text without names leaves the disk as the
source before it has. -/
theorem run_stops_unwritten (sandbox : Sandbox Memory) (state : State Memory) {fresh : Bool}
    {ready between left : Disk} {failure : Failure}
    (readies : sandbox.workspace.ensureReady sandbox.seed state.surroundings.disk =
      (.ok fresh, ready))
    (writes : Snippet.Writes sandbox.workspace.sourceDir sandbox.collaborators.detect earlier
      ready snippets between)
    (fails : Snippet.write sandbox.workspace.sourceDir sandbox.collaborators.detect bad between =
      (.error failure, left)) :
    (∃ after, (∀ later, sandbox.run (earlier ++ bad :: later) state = (.error failure, after)) ∧
      IsStopped sandbox earlier snippets state after ∧ after.surroundings.disk = left) ∧
    (∀ later, sandbox.runExchanges (earlier ++ bad :: later) state = []) ∧
    (∀ snippet ∈ snippets, between.Holds snippets snippet.path) ∧
    ∀ problem, failure = .parse problem →
      Snippet.ofText sandbox.workspace.sourceDir sandbox.collaborators.detect bad =
        .error problem ∧ left = between := by
  have judged : ∀ snippet ∈ snippets,
      snippet.isEntry = sandbox.collaborators.detect snippet.text := by
    have all := writes.judged
    rw [← writes.map_text, List.map_map, List.map_inj_left] at all
    exact all
  refine ⟨⟨_, fun later => run_eq_of_unwritten readies writes fails, ?_, rfl⟩, fun later => ?_,
    writes.holds_paths (List.forall_mem_nil _), ?_⟩
  · exact
      { texts := writes.map_text
        session := (foldl_record snippets {}).1
        tells := Session.Tells.new.foldl_record judged
        events := rfl
        config := rfl
        memory := rfl
        stages := rfl }
  · have recorded : sandbox.recorded.run (earlier ++ bad :: later) state.recorded = _ :=
      run_eq_of_unwritten readies writes fails
    rw [Sandbox.runExchanges, recorded]
    rfl
  · rintro problem rfl
    exact Snippet.write_parse_failed fails

/-- A disk with the directories of an idle sandbox. -/
def bothDirectories : Disk :=
  { tree := ⟨[("s", .directory []), ("c", .directory [])], 0⟩, current := [] }

theorem run_stops_unwritten_unnamed :
    idle.workspace.ensureReady idle.seed bothDirectories = (.ok false, bothDirectories) ∧
    ∃ snippet between,
      Snippet.Writes "/s" Source.hasMainSignature ["class A {}"] bothDirectories [snippet]
        between ∧
      Snippet.write "/s" Source.hasMainSignature "class" between =
        (.error (.parse (.missingTypeName "class" "class")), between) ∧
      ∃ after, idle.run ["class A {}", "class", "class B {}"]
          (.start ⟨bothDirectories, ()⟩ {}) =
            (.error (.parse (.missingTypeName "class" "class")), after) ∧
        after.session.snippets = [snippet] ∧ after.surroundings.disk = between := by
  have readies : idle.workspace.ensureReady idle.seed bothDirectories =
      (.ok false, bothDirectories) :=
    Workspace.ensureReady_of_there (by cbv)
      (makeDirectories_of_present rfl (by decide)
        (by cbv : bothDirectories.tree.find [] .name "/c" = .ok (.present ["c"] .directory))
        (by cbv))
  have unnamed : Snippet.ofText "/s" Source.hasMainSignature "class" =
      .error (.missingTypeName "class" "class") := by
    cbv
  have written : (Snippet.write "/s" Source.hasMainSignature "class A {}"
      bothDirectories).1.isOk = true := by
    cbv
  rcases wrote : Snippet.write "/s" Source.hasMainSignature "class A {}" bothDirectories with
    ⟨failure | snippet, between⟩
  · rw [wrote] at written
    cases written
  · have writes : Snippet.Writes "/s" Source.hasMainSignature ["class A {}"] bothDirectories
        [snippet] between := .more wrote .nothing
    have fails : Snippet.write "/s" Source.hasMainSignature "class" between =
        (.error (.parse (.missingTypeName "class" "class")), between) := by
      rw [Snippet.write, unnamed]
      rfl
    obtain ⟨⟨after, stopped, isStopped, left⟩, -⟩ :=
      run_stops_unwritten idle (.start ⟨bothDirectories, ()⟩ {}) readies writes fails
    exact ⟨readies, snippet, between, writes, fails, after, stopped _, isStopped.session, left⟩

end Run

end SnippetSandbox
