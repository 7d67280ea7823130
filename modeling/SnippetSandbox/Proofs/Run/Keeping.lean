import SnippetSandbox.Proofs.Run.Sources
import SnippetSandbox.Proofs.Workspace.Settled

/-!
# What a sandbox keeps in its source directory

A sandbox is prepared and runs sources, again and again.  At the end each file in its source
directory has the text that was last written for it, and one that nothing was written for is
as it was: no run removes a file, and none brings back a file that somebody has removed.
-/

namespace SnippetSandbox.Run

open FileSystem Workspace

def filePlace (around : Place) (snippet : Snippet) : Place :=
  snippet.way.reverse ++ sourcePlace around

def lastWritten (around : Place) (written : List Snippet) (place : Place) : Option Snippet :=
  (written.filter fun snippet => filePlace around snippet = place).getLast?

/-- What is at a place now, where something was at the start and a snippet was last written.
Where nothing was written it is the same; a device holds no text. -/
inductive Retains (start now : Option FileSystem.Entry) : Option Snippet → Prop
  | spared (same : now = start) : Retains start now none
  | written {snippet : Snippet} {identity : Nat} {executable : Bool}
      (there : now = some (.file identity snippet.text.toUTF8 executable)) :
      Retains start now (some snippet)
  | device {snippet : Snippet} {kind : Device} (before : start = some (.device kind))
      (there : now = some (.device kind)) : Retains start now (some snippet)

/-- After these snippets were written, the source directory of a settled workspace shows the
last of them at each place, and otherwise what it showed at the start. -/
structure Keeps (root : String) (around : Place) (start : Tree) (written : List Snippet)
    (disk : Disk) : Prop where
  settled : IsSettled root around disk
  named : ∀ snippet ∈ written, snippet.IsNamed (inside root).sourceDir
  usable : ∀ snippet ∈ written, Path.IsUsable snippet.path ∧
    ∀ name ∈ snippet.way, IsPlainName name
  leaves : ∀ place, sourcePlace around <:+ place →
    Retains (start.leaf? place) (disk.tree.leaf? place) (lastWritten around written place)

namespace Keeps

variable {root : String} {around : Place} {start : Tree} {written : List Snippet}
variable {before after : Disk} {snippet : Snippet}

theorem refl (settled : IsSettled root around before) :
    Keeps root around before.tree [] before :=
  ⟨settled, nofun, nofun, fun _ _ => .spared rfl⟩

theorem spares (keeps : Keeps root around start written before)
    (spares : Spares root around before after) : Keeps root around start written after := by
  obtain ⟨settled, same⟩ := spares keeps.settled
  refine ⟨settled, keeps.named, keeps.usable, fun place isInside => ?_⟩
  rw [same place isInside]
  exact keeps.leaves place isInside

theorem lastWritten_concat {place : Place} : lastWritten around (written ++ [snippet]) place =
    if filePlace around snippet = place then some snippet
    else lastWritten around written place := by
  rw [lastWritten, lastWritten, List.filter_append]
  split
  next here => simp [here]
  next elsewhere => simp [elsewhere]

theorem way_ne_nil (snippet : Snippet) : snippet.way ≠ [] := by
  simp [Snippet.way]

/-- No link is on the way to anything in a source directory without links. -/
theorem isPlainBelow {disk : Disk} (settled : IsSettled root around disk) (names : List String) :
    disk.tree.IsPlainBelow (sourcePlace around) names :=
  fun front _ _ target => settled.noLinks _ (List.suffix_append front.reverse _) target

/-- A further snippet that was written is shown at its place, and nowhere else has anything
changed. -/
theorem write {text : String} {detector : Detector}
    (keeps : Keeps root around start written before)
    (done : Snippet.write (inside root).sourceDir detector text before = (.ok snippet, after)) :
    Keeps root around start (written ++ [snippet]) after := by
  have settled : IsSettled root around after :=
    keeps.settled.builds ((Snippet.builds_write _ _ _).states done)
  obtain ⟨named, between, made, stored⟩ := Snippet.write_done done
  obtain ⟨-, -, named⟩ := Snippet.ofText_done named
  have adds := (Disk.AddsDirectories.makeDirectories _).states made
  have spelled {place : Place} {entry : FileSystem.Entry}
      (leads : after.find snippet.path = .ok (.present place entry)) :
      place = filePlace around snippet ∧ ∀ name ∈ snippet.way, IsPlainName name := by
    rw [named.path_eq_joinAll] at leads
    exact settled.sourcesLead.find_below (way_ne_nil snippet)
      (fun _ onWay => named.isProper onWay) (isPlainBelow settled _) leads
  have unchanged {place : Place} (isInside : sourcePlace around <:+ place)
      (elsewhere : filePlace around snippet ≠ place)
      (same : after.tree.lookup place = between.tree.lookup place) :
      Retains (start.leaf? place) (after.tree.leaf? place)
        (lastWritten around (written ++ [snippet]) place) := by
    have sameLeaf : after.tree.leaf? place = before.tree.leaf? place := by
      rw [← adds.leaf? place, Tree.leaf?, same, Tree.leaf?]
    rw [lastWritten_concat, if_neg elsewhere, sameLeaf]
    exact keeps.leaves place isInside
  have members {property : Snippet → Prop} (old : ∀ other ∈ written, property other)
      (new : property snippet) : ∀ other ∈ written ++ [snippet], property other := by
    intro other isMember
    rcases List.mem_append.mp isMember with isOld | isNew
    · exact old other isOld
    · exact List.mem_singleton.mp isNew ▸ new
  obtain ⟨-, ⟨here, identity, executable, leads, rewritten⟩ | ⟨here, kind, leads, same⟩⟩ :=
    writeText_done stored
  · obtain ⟨rfl, plain⟩ := spelled leads
    refine ⟨settled, members keeps.named named,
      members keeps.usable ⟨(Tree.find_done leads).1, plain⟩, fun place isInside => ?_⟩
    by_cases same : filePlace around snippet = place
    · rw [lastWritten_concat, if_pos same]
      exact .written (Tree.leaf?_of_lookup (same ▸ Tree.find_ends leads) (by simp))
    · exact unchanged isInside same (rewritten.same place (Ne.symm same))
  · obtain ⟨rfl, plain⟩ := spelled leads
    refine ⟨settled, members keeps.named named,
      members keeps.usable ⟨(Tree.find_done leads).1, plain⟩, fun place isInside => ?_⟩
    by_cases elsewhere : filePlace around snippet = place
    · -- The device was there before, and nothing but this device can have been at the start.
      have there : after.tree.leaf? place = some (.device kind) :=
        Tree.leaf?_of_lookup (elsewhere ▸ Tree.find_ends leads) (by simp)
      have thereBefore : before.tree.leaf? place = some (.device kind) := by
        rw [← adds.leaf?, ← there, Tree.leaf?, Tree.leaf?, same]
      rw [lastWritten_concat, if_pos elsewhere]
      have retained := keeps.leaves place isInside
      generalize lastWritten around written place = last at retained
      cases last with
      | none =>
          cases retained with
          | spared unchanged => exact .device (unchanged.symm.trans thereBefore) there
      | some other =>
          cases retained with
          | written file => cases file.symm.trans thereBefore
          | device atStart atLast =>
              cases atLast.symm.trans thereBefore
              exact .device atStart there
    · exact unchanged isInside elsewhere (by rw [same])

end Keeps

/-- A try that failed has left the files in the source directory as they were. -/
def IsHarmless (around : Place) (attempt : Attempt) : Prop :=
  attempt.answer.isOk = false → ∀ place, sourcePlace around <:+ place →
    attempt.after.tree.leaf? place = attempt.before.tree.leaf? place

/-- What has been written is shown after all the tries at writing texts. -/
theorem Keeps.attempts {root : String} {around : Place} {start : Tree} {written : List Snippet}
    {detector : Detector} {texts : List String} {disk : Disk}
    (keeps : Keeps root around start written disk)
    (harmless : ∀ attempt ∈ Snippet.attempts (inside root).sourceDir detector texts disk,
      IsHarmless around attempt) :
    let attempts := Snippet.attempts (inside root).sourceDir detector texts disk
    Keeps root around start (written ++ Attempt.written attempts)
      (Attempt.left disk attempts) := by
  induction texts generalizing written disk with
  | nil => simpa [Snippet.attempts, Attempt.written, Attempt.left] using keeps
  | cons text texts ih =>
      rcases done : Snippet.write (inside root).sourceDir detector text disk with
        ⟨failure | snippet, after⟩
      · have tries := Snippet.attempts_of_error texts done
        have builds := (Snippet.builds_write _ _ _).states done
        rw [tries] at harmless ⊢
        have spares : Spares root around disk after := fun settled =>
          ⟨settled.builds builds, harmless _ List.mem_cons_self rfl⟩
        simpa [Attempt.written, Attempt.left, Except.toOption] using keeps.spares spares
      · have tries := Snippet.attempts_of_ok texts done
        rw [tries] at harmless ⊢
        have rest := ih (keeps.write done) fun attempt isMember =>
          harmless attempt (List.mem_cons_of_mem _ isMember)
        simpa [Attempt.written, Attempt.left, Except.toOption] using rest

/-- Everybody whom a run calls on leaves the source directory alone. -/
structure LeaveAlone {Memory : Type} (root : String) (around : Place)
    (collaborators : Collaborators Memory) : Prop where
  compile : ∀ files directory, Effect.Relates
    (fun before after => Spares root around before.disk after.disk)
    (collaborators.compile files directory)
  execute : ∀ entry places flags, Effect.Relates
    (fun before after => Spares root around before.disk after.disk)
    (collaborators.execute entry places flags)
  save : ∀ config, Effect.Relates
    (fun before after => Spares root around before.disk after.disk) (collaborators.save config)
  forget : ∀ surroundings,
    Spares root around surroundings.disk (collaborators.forget surroundings).disk
  ingest : ∀ logFile, Effect.Relates
    (fun before after => Spares root around before.disk after.disk) (collaborators.ingest logFile)

section Stages

variable {Memory Result : Type} {root : String} {around : Place} {sandbox : Sandbox Memory}

def SparesSources (root : String) (around : Place) (action : Action Memory Result) : Prop :=
  Effect.Relates
    (fun before after => Spares root around before.surroundings.disk after.surroundings.disk) action

namespace SparesSources

theorem bind {Next : Type} {action : Action Memory Result} {next : Result → Action Memory Next}
    (works : SparesSources root around action)
    (goesOn : ∀ result, SparesSources root around (next result)) :
    SparesSources root around (action >>= next) :=
  Effect.Relates.bind .trans works goesOn

theorem pure (result : Result) :
    SparesSources root around (Pure.pure result : Action Memory Result) :=
  fun _ => .refl _

theorem get : SparesSources root around (MonadState.get : Action Memory (State Memory)) :=
  fun _ => .refl _

theorem throw_bind {Next : Type} (failure : Failure) (next : Result → Action Memory Next) :
    SparesSources root around ((throw failure : Action Memory Result) >>= next) :=
  fun _ => .refl _

/-- A change of the state that leaves the disk alone spares the sources. -/
theorem modify {change : State Memory → State Memory}
    (spares : ∀ state, Spares root around state.surroundings.disk
      (change state).surroundings.disk) :
    SparesSources root around (MonadStateOf.modifyGet fun state => ((), change state) :
      Action Memory Unit) :=
  spares

theorem happen (event : Event) :
    SparesSources root around (Run.happen event : Action Memory Unit) :=
  fun _ => .refl _

theorem report (line : String) :
    SparesSources root around (Run.report line : Action Memory Unit) :=
  fun _ => .refl _

theorem tell (notice : Notice) :
    SparesSources root around (Run.tell notice : Action Memory Unit) :=
  fun _ => .refl _

theorem call {request : Call Memory Result}
    (spares : Effect.Relates (fun before after => Spares root around before.disk after.disk)
      request) : SparesSources root around (Run.call request) :=
  fun before => spares before.surroundings

theorem onDisk {task : Task Result} (spares : Effect.Relates (Spares root around) task) :
    SparesSources root around (Run.onDisk task : Action Memory Result) :=
  fun before => spares before.surroundings.disk

theorem compile (alone : LeaveAlone root around sandbox.collaborators) :
    SparesSources root around sandbox.compile := by
  rw [Sandbox.compile]
  refine .bind .get fun state => ?_
  refine .bind (.report _) fun _ => .bind (.happen _) fun _ => ?_
  refine .bind (.call (alone.compile _ _)) fun result => .bind (.report _) fun _ => ?_
  split
  next => exact .bind (.tell _) fun _ => .pure _
  next =>
    refine .bind .get fun state => ?_
    split <;> exact .pure _

theorem removeOldLog (inside : sandbox.workspace = .inside root) :
    SparesSources root around sandbox.removeOldLog := by
  rw [Sandbox.removeOldLog, inside]
  refine .bind (.onDisk fun _ => .refl _) fun present => ?_
  split
  next => exact .onDisk (relates_reportedFor (spares_removeLog root around) _)
  next => exact .pure _

theorem executeEntry (inside : sandbox.workspace = .inside root)
    (alone : LeaveAlone root around sandbox.collaborators) (entry : String) :
    SparesSources root around (sandbox.executeEntry entry) := by
  rw [Sandbox.executeEntry]
  refine .bind .get fun state => .bind (.report _) fun _ => ?_
  split
  next => exact .throw_bind _ _
  next =>
    refine .bind (.report _) fun _ => .bind (.report _) fun _ => ?_
    refine .bind (.removeOldLog inside) fun _ => .bind (.onDisk fun _ => .refl _) fun present => ?_
    refine .bind (.happen _) fun _ => .bind (.call (alone.execute _ _ _)) fun result => ?_
    refine .bind (.report _) fun _ => ?_
    split
    next => exact .bind (.tell _) fun _ => .pure _
    next => exact .pure _

theorem synchronize (alone : LeaveAlone root around sandbox.collaborators) :
    SparesSources root around sandbox.synchronize := by
  have registers : SparesSources root around sandbox.registerPaths := by
    rw [Sandbox.registerPaths]
    exact .bind .get fun state => .bind (.modify fun _ => .refl _) fun _ => .pure _
  have forgets : SparesSources root around sandbox.forget := by
    rw [Sandbox.forget]
    exact .bind (.happen _) fun _ => .modify fun state => alone.forget state.surroundings
  have ingests (logFile : String) : SparesSources root around (sandbox.ingest logFile) := by
    rw [Sandbox.ingest]
    exact .bind (.happen _) fun _ => .call (alone.ingest logFile)
  rw [Sandbox.synchronize]
  refine .bind registers fun changed => ?_
  have shows : SparesSources root around (do
      sandbox.forget
      sandbox.ingest sandbox.workspace.logFile
      return changed) :=
    .bind forgets fun _ => .bind (ingests _) fun _ => .pure _
  split
  next => exact .bind .get fun _ => .bind (.happen _) fun _ => .bind (.call (alone.save _)) fun _ => shows
  next => exact shows

theorem locateFirst : SparesSources root around sandbox.locateFirst := by
  rw [Sandbox.locateFirst]
  refine .bind .get fun state => ?_
  split
  next name =>
    rw [Sandbox.locate]
    refine .bind (.report _) fun _ => .bind (.happen _) fun _ => .bind .get fun _ => ?_
    split
    next => exact .bind (.pure _) fun _ => .bind (.tell _) fun _ => .pure _
    next =>
      refine .bind (.report _) fun _ => .bind (.report _) fun _ => ?_
      exact .bind (.pure _) fun _ => .bind (.tell _) fun _ => .pure _
  next => exact .bind (.tell _) fun _ => .pure _

theorem step (inside : sandbox.workspace = .inside root)
    (alone : LeaveAlone root around sandbox.collaborators) (sources : List String) {stage : Stage}
    (later : stage ≠ .writing) : SparesSources root around (sandbox.step sources stage) := by
  cases stage with
  | writing => exact absurd rfl later
  | compiling => exact compile alone
  | executing =>
      refine .bind .get fun state => ?_
      split
      next => exact .pure _
      next => exact executeEntry inside alone _
  | noEntryPoint => exact .bind (.report _) fun _ => .pure _
  | ingesting => exact .bind (synchronize alone) fun _ => .bind (.report _) fun _ => .pure _
  | locating => exact .bind locateFirst fun _ => .pure _
  | done | aborted => exact fun _ => .refl _

theorem enter (inside : sandbox.workspace = .inside root)
    (alone : LeaveAlone root around sandbox.collaborators) (sources : List String) {stage : Stage}
    (later : stage ≠ .writing) : SparesSources root around (sandbox.enter sources stage) :=
  .bind (.modify fun _ => .refl _) fun _ => step inside alone sources later

theorem runFrom (inside : sandbox.workspace = .inside root)
    (alone : LeaveAlone root around sandbox.collaborators) (sources : List String) {stage : Stage}
    (later : stage ≠ .writing) : SparesSources root around (sandbox.runFrom sources stage) := by
  induction remaining : stage.remaining using Nat.strongRecOn generalizing stage with
  | ind remaining ih =>
      rw [Sandbox.runFrom]
      refine .bind (enter inside alone sources later) fun led => ?_
      cases led with
      | advance next fewer =>
          refine ih next.remaining (remaining ▸ fewer) ?_ rfl
          rintro rfl
          cases stage <;> simp [Stage.remaining] at fewer later
      | stop outcome => exact .pure _

end SparesSources

end Stages

/-- Something that is done with a sandbox between resets. -/
inductive Use
  /-- Making the workspace ready. -/
  | prepare
  | run (sources : List String)

section Uses

variable {Memory : Type} (sandbox : Sandbox Memory)

/-- Make the workspace of a sandbox ready. -/
def Sandbox.prepare : Action Memory Bool :=
  onDisk (sandbox.workspace.ensureReady sandbox.seed)

/-- The state after a use. -/
def Use.play (state : State Memory) : Use → State Memory
  | .prepare => (sandbox.prepare state).2
  | .run sources => (sandbox.run sources state).2

/-- The tries at writing texts that a use makes. -/
def Use.attempts (state : State Memory) : Use → List Attempt
  | .prepare => []
  | .run sources =>
      let ready := sandbox.prepare state
      match ready.1 with
      | .ok _ => sandbox.attempts sources ready.2.surroundings.disk
      | .error _ => []

variable {sandbox} {root : String} {around : Place} {start : Tree} {written : List Snippet}

theorem Keeps.runFrom (inside : sandbox.workspace = .inside root)
    (alone : LeaveAlone root around sandbox.collaborators) {sources : List String}
    {state : State Memory} {disk : Disk} (keeps : Keeps root around start written disk)
    (here : state.surroundings.disk = disk)
    (harmless : ∀ attempt ∈ sandbox.attempts sources disk, IsHarmless around attempt) :
    Keeps root around start (written ++ Attempt.written (sandbox.attempts sources disk))
      (sandbox.runFrom sources .writing state).2.surroundings.disk := by
  subst here
  rw [Sandbox.attempts, inside] at harmless ⊢
  have keepsAll := keeps.attempts harmless
  have wrote {entering left : State Memory} {answer : Except Failure Unit}
      (done : sandbox.writeSources sources entering = (answer, left))
      (same : entering.surroundings = state.surroundings) :
      Keeps root around start (written ++ Attempt.written (Snippet.attempts
        (Workspace.inside root).sourceDir sandbox.collaborators.detect sources
          state.surroundings.disk)) left.surroundings.disk := by
    obtain ⟨surroundings, -⟩ := writeSources_done done
    rw [surroundings, same, Sandbox.attempts, inside]
    exact keepsAll
  rcases done : sandbox.runFrom sources .writing state with ⟨answer, after⟩
  rw [Sandbox.runFrom] at done
  rcases Effect.bind_done done with ⟨failure, entered, rfl⟩ | ⟨led, between, entered, done⟩ <;>
    rw [Sandbox.enter, bind_modify] at entered
  · rcases Effect.bind_done entered with ⟨_, failed, -⟩ | ⟨⟨⟩, _, _, impossible⟩
    · exact wrote failed rfl
    · cases impossible
  · obtain ⟨⟨⟩, left, succeeded, finished⟩ := Effect.bind_ok entered
    cases finished
    have spares := (SparesSources.runFrom inside alone sources (by decide)).states done
    exact (wrote succeeded rfl).spares spares

theorem Keeps.play (inside : sandbox.workspace = .inside root)
    (alone : LeaveAlone root around sandbox.collaborators) {state : State Memory} {use : Use}
    (keeps : Keeps root around start written state.surroundings.disk)
    (harmless : ∀ attempt ∈ use.attempts sandbox state, IsHarmless around attempt) :
    Keeps root around start (written ++ Attempt.written (use.attempts sandbox state))
      (use.play sandbox state).surroundings.disk := by
  have prepares : SparesSources root around sandbox.prepare := by
    rw [Sandbox.prepare, inside]
    exact .onDisk (spares_ensureReady root around sandbox.seed)
  cases use with
  | prepare => simpa [Use.attempts, Attempt.written, Use.play] using keeps.spares (prepares state)
  | run sources =>
      rw [Use.attempts] at harmless ⊢
      rw [Use.play]
      rcases prepared : sandbox.prepare state with ⟨failure | fresh, ready⟩
      · have failed : sandbox.run sources state = (.error failure, ready) :=
          Effect.bind_of_error prepared
        rw [failed]
        simpa [Attempt.written] using keeps.spares (prepares.states prepared)
      · have began : sandbox.run sources state =
            sandbox.runFrom sources .writing { ready with session := {}, stages := [] } :=
          Effect.bind_of_ok prepared
        rw [prepared] at harmless
        rw [began]
        exact Keeps.runFrom inside alone (keeps.spares (prepares.states prepared)) rfl harmless

theorem Keeps.entryAt? {disk : Disk} (keeps : Keeps root around start written disk)
    {snippet : Snippet} (isMember : snippet ∈ written) {settledDisk : Disk}
    (settled : IsSettled root around settledDisk) {entry : FileSystem.Entry}
    (found : settledDisk.tree.leaf? (filePlace around snippet) = some entry)
    (notLink : ∀ target, entry ≠ .link target) :
    settledDisk.entryAt? snippet.path = .ok entry := by
  obtain ⟨usable, plain⟩ := keeps.usable snippet isMember
  have named := keeps.named snippet isMember
  rw [named.path_eq_joinAll] at usable ⊢
  have leads := settled.sourcesLead.find_present (way_ne_nil snippet)
    (fun _ onWay => named.isProper onWay) plain usable (Tree.lookup_of_leaf? found) notLink
  rw [Disk.entryAt?, Disk.find, leads]

end Uses

/-- A sandbox in a directory of the root, whose collaborators do nothing. -/
def rooted : Sandbox Unit :=
  { idle with workspace := .inside "/" }

end SnippetSandbox.Run
