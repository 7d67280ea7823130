import SnippetSandbox.Console.Command
import SnippetSandbox.Proofs.Run.Minding
import SnippetSandbox.Proofs.Workspace.Locking

/-!
# Commands on a shared workspace

A run looks at the disk before it wants the lock, and changes nothing.  Behind the lock it
writes, starts tools and saves, and a reset empties and sows, all of it in pieces that leave
every lock good, provided that the tools leave the lock file and the way to it alone.
-/

namespace SnippetSandbox

open FileSystem Supervision Workspace

/-- How a workspace may be looked at: nothing changes. -/
def looking (root : String) (ground : Place) (back : List String) : Rule where
  holds := IsShared root ground back
  allows before after := after.tree = before.tree ∧ after.locked = before.locked
  refl _ := ⟨rfl, rfl⟩

/-- Whatever tool is started leaves the root where it is and all locks good. -/
def Supervision.Machine.Spares (machine : Machine) (root : String) (ground : Place)
    (back : List String) : Prop :=
  ∀ command disk child, machine.launch command disk = .ok child → IsShared root ground back disk →
    ∀ time, IsShared root ground back (child.progress time).disk ∧
      SparesLock ground back disk (child.progress time).disk

section Tools

variable {root : String} {ground : Place} {back : List String} {machine : Machine}

theorem obeys_runBounded (spares : machine.Spares root ground back) (command : Command)
    (limit : Time.Span) : (sharing root ground back).Obeys (runBounded machine command limit) := by
  refine .single (.tool machine command limit) (fun disk shared => ?_) fun _ _ => trivial
  change IsShared root ground back (supervise machine command limit disk).disk ∧
    SparesLock ground back disk (supervise machine command limit disk).disk
  rw [supervise]
  split
  next => exact ⟨shared, (sharing root ground back).refl disk⟩
  next child started =>
    split
    next => exact spares _ _ _ started shared _
    next => exact spares _ _ _ started shared _

theorem obeys_compileWith (spares : machine.Spares root ground back) (toolchain : Toolchain)
    (limit : Time.Span) (files : List String) (outputDir : String) :
    (sharing root ground back).Obeys
      (Run.compileWith machine toolchain limit files outputDir) :=
  .bind (obeys_runBounded spares _ _) fun _ => Rule.done _

theorem obeys_executeWith (spares : machine.Spares root ground back) (toolchain : Toolchain)
    (limit : Time.Span) (entry : String) (places options : List String) :
    (sharing root ground back).Obeys
      (Run.executeWith machine toolchain limit entry places options) := by
  rw [Run.executeWith]
  split
  next => exact Rule.done _
  next => exact .bind (obeys_runBounded spares _ _) fun _ => Rule.done _

theorem obeys_save (config : Config) (path : String) :
    (sharing root ground back).Obeys (config.save path) := by
  have writes : (sharing root ground back).Obeys
      ((writeText path config.render).reportedFor path) :=
    (obeys_fill _ _ _).reportedFor _
  rw [Config.save]
  split
  next => exact .bind ((obeys_makeDirectories _).reportedFor _) fun _ => writes
  next => exact writes

end Tools

section Looking

variable {root : String} {ground : Place} {back : List String} {Result : Type}

theorem looks_reading {action : Disk → Except Cause (Result × Disk)}
    (reads : ∀ disk result changed, action disk = .ok (result, changed) → changed = disk) :
    (looking root ground back).Obeys (attempt action) := by
  refine .single (.attempt action) (fun disk shared => ?_) fun _ _ => trivial
  rw [attempt_reads reads]
  exact ⟨shared.extended (.nextFault disk), disk.nextFault_tree, disk.nextFault_locked⟩

theorem looks_readText (path : String) : (looking root ground back).Obeys (readText path) := by
  rw [readText]
  refine .bind (looks_reading fun disk result changed took => ?_) fun bytes => ?_
  · split at took <;> cases took <;> rfl
  · split <;> exact Rule.done _

theorem looks_load (path : String) : (looking root ground back).Obeys (Config.load path) :=
  (looks_readText path).map (Config.ofFile path)

end Looking

namespace Console

open Run Analysis

variable {root : String} {ground : Place} {back : List String}
variable {setting : Setting} {preparation : Preparation}

theorem looks_readSources (files : List String) :
    (looking root ground back).Obeys (readSources files) := by
  induction files with
  | nil => exact Rule.done _
  | cons file others ih =>
      rw [readSources]
      refine .bind ?_ fun text => ?_
      · exact (looks_readText file).map (Except.mapError (Refusal.unreadable file))
      exact .bind ih fun _ => Rule.done _

/-- What a run does before it wants the lock leaves everything as it is. -/
theorem looks_prepare (setting : Setting) (files : List String) :
    (looking root ground back).Obeys (prepare setting files) := by
  rw [prepare]
  refine .bind (looks_readSources files) fun sources => ?_
  refine .bind ((looks_load _).map (Except.mapError Refusal.failed)) fun config => ?_
  refine .bind (Rule.ask _) fun disk => ?_
  split <;> exact Rule.done _

/-- The tools, the store and the gauge of a run all leave the locks good. -/
theorem mind_sandbox (spares : setting.machine.Spares root ground back) :
    (sandbox setting preparation).collaborators.Mind (sharing root ground back) where
  compile files directory := .ofTask (obeys_compileWith spares _ _ files directory)
  execute entry places flags := .ofTask (obeys_executeWith spares _ _ entry places flags)
  save config := .ofTask (obeys_save config setting.configFile)
  forget _ := rfl
  ingest _ := .quiet fun _ => rfl

/-- What is shown for a run that has ended, from its outcome and what it knows then. -/
def shownRun (setting : Setting) (quiet : Bool) :
    Except Failure Outcome × State Gauge → Transcript
  | (result, final) =>
      let told := notices final.events
      let ending := match result with
        | .ok outcome => closing final.surroundings.memory outcome
        | .error failure => refused (.failed failure)
      ending.behind (opening setting.workspace :: (told.map (shownNotice quiet)).flatten)
        (String.join (told.map noticeErrors))

theorem obeys_runPrepared (inside : setting.workspace = .inside root)
    (spares : setting.machine.Spares root ground back) (quiet : Bool)
    (preparation : Preparation) :
    (sharing root ground back).Obeys (runPrepared setting quiet preparation) := by
  let known : State Gauge :=
    { surroundings := { disk := { tree := .bare, current := [] }, memory := {} }
      config := preparation.config }
  have minds := @minds_run _ _ _ _ (sandbox setting preparation) inside (mind_sandbox spares)
    preparation.sources
  exact (minds known).map (shownRun setting quiet)

def resetting (setting : Setting) (disk : Disk) : Transcript × Disk :=
  match setting.workspace.reset setting.seed disk with
  | (.ok (), changed) =>
      ({ output := [line (Style.green.apply "Reset" ++ " " ++ setting.workspace.sourceDir)] },
        changed)
  | (.error failure, changed) => (refused (.failed failure), changed)

theorem obeys_resetting (inside : setting.workspace = .inside root) :
    (sharing root ground back).Obeys (resetting setting) := by
  let shown : Except Failure Unit → Transcript
    | .ok () =>
        { output := [line (Style.green.apply "Reset" ++ " " ++ setting.workspace.sourceDir)] }
    | .error failure => refused (.failed failure)
  have cut : resetting setting = fun disk =>
      (shown (setting.workspace.reset setting.seed disk).1,
        (setting.workspace.reset setting.seed disk).2) := by
    funext disk
    rw [resetting]
    rcases setting.workspace.reset setting.seed disk with ⟨failure | ⟨⟩, changed⟩ <;> rfl
  rw [cut, inside]
  exact (obeys_reset setting.seed).map shown

end Console

end SnippetSandbox
