import SnippetSandbox.Proofs.Procedure
import SnippetSandbox.Proofs.Workspace.Additions
import SnippetSandbox.Proofs.Workspace.Emptying
import SnippetSandbox.Workspace.Lock

/-!
# The lock file among those who share a workspace

A lock belongs to the file at the lock's place, so it is good as long as this file stays there.
Everything that is done to prepare, sow, empty or use a workspace consists of pieces that add
to the disk, or remove something in the sandbox directory, and none of them touches the lock
file, which lies beside that directory.  This takes for granted that the lock's place holds no
link: the lock would be on a file elsewhere, which may well be inside.
-/

namespace SnippetSandbox

open FileSystem

namespace FileSystem

section Locks

variable {before after : Disk}

@[simp] theorem Disk.nextFault_locked (disk : Disk) : disk.nextFault.2.locked = disk.locked := by
  rw [Disk.nextFault]
  split <;> rfl

/-- An operation takes or gives up a lock only if its action does. -/
theorem attempt_locked {Result : Type} {action : Disk → Except Cause (Result × Disk)}
    (keeps : ∀ disk result changed, action disk = .ok (result, changed) →
      changed.locked = disk.locked) (before : Disk) :
    (attempt action before).2.locked = before.locked := by
  rcases done : attempt action before with ⟨answer, after⟩
  rcases attempt_cases done with ⟨_, -, rfl⟩ | ⟨_, -, took⟩
  · exact before.nextFault_locked
  · exact (keeps _ _ _ took).trans before.nextFault_locked

theorem makeDirectory_locked (path : String) (before : Disk) :
    (makeDirectory path before).2.locked = before.locked := by
  refine attempt_locked (fun disk result changed took => ?_) before
  split at took <;> cases took
  rfl

theorem openForWriting_locked (path : String) (truncate executable : Bool) (before : Disk) :
    (openForWriting path truncate executable before).2.locked = before.locked := by
  refine attempt_locked (fun disk result changed took => ?_) before
  split at took <;> cases took <;> rfl

theorem storeBytes_locked (handle : Handle) (bytes : ByteArray) (before : Disk) :
    (storeBytes handle bytes before).2.locked = before.locked := by
  rw [storeBytes]
  cases handle with
  | file place identity executable =>
      dsimp only
      split <;> exact before.nextFault_locked
  | device kind =>
      dsimp only
      split
      next => exact before.nextFault_locked
      next => split <;> exact before.nextFault_locked

theorem fill_locked (path : String) (executable : Bool) (bytes : ByteArray) (before : Disk) :
    ((openForWriting path true executable >>= fun handle => storeBytes handle bytes)
      before).2.locked = before.locked := by
  have opens := openForWriting_locked path true executable before
  rcases opened : openForWriting path true executable before with ⟨cause | handle, between⟩
  · rw [opened] at opens
    rwa [Effect.bind_of_error opened]
  · rw [opened] at opens
    rw [Effect.bind_of_ok opened, storeBytes_locked]
    exact opens

theorem removeFile_locked (path : String) (before : Disk) :
    (removeFile path before).2.locked = before.locked := by
  refine attempt_locked (fun disk result changed took => ?_) before
  split at took
  next => cases took
  next =>
    split at took <;> cases took
    rfl
  next => cases took
  next => cases took

theorem removeTree_locked (path : String) (before : Disk) :
    (removeTree path before).2.locked = before.locked := by
  refine attempt_locked (fun disk result changed took => ?_) before
  split at took
  next =>
    dsimp only at took
    split at took <;> cases took <;> rfl
  next =>
    cases took
    rfl
  next => cases took
  next => cases took
  next => cases took

end Locks

/-- By what a lock on an entry is known. -/
def Entry.key? : Entry → Option FileKey
  | .file identity _ _ => some (.file identity)
  | .device kind => some (.device kind)
  | .directory | .link _ => none

/-- By what a lock on the entry at a place is known. -/
def Disk.keyAt? (disk : Disk) (place : Place) : Option FileKey :=
  (disk.tree.lookup place).bind Entry.key?

theorem Disk.Extends.keyAt? {before after : Disk} (adds : before.Extends after) {place : Place}
    {key : FileKey} (held : before.keyAt? place = some key) : after.keyAt? place = some key := by
  rw [Disk.keyAt?] at held ⊢
  obtain ⟨entry, found, isKey⟩ := Option.bind_eq_some_iff.mp held
  cases entry with
  | file identity content executable =>
      obtain ⟨_, _, there⟩ := adds.files _ _ _ _ found
      rw [there]
      exact isKey
  | device kind =>
      have builds := adds.builds.places place
      rw [found] at builds
      generalize after.tree.lookup place = later at builds
      cases builds with
      | same => exact isKey
      | written writable =>
          obtain ⟨_, _, _, ⟨⟩⟩ := writable _ rfl
  | directory | link => cases isKey

end FileSystem

namespace Workspace

/-- Where the root is when some names below a directory lead to it. -/
def rootPlace (ground : Place) (back : List String) : Place :=
  back.reverse ++ ground

/-- Where the lock file is, beside the sandbox directory. -/
def lockPlace (ground : Place) (back : List String) : Place :=
  "sandbox.lock" :: rootPlace ground back

/-- What those who share a workspace can rely on: its root has one place, and the lock is no
link to another one. -/
structure IsShared (root : String) (ground : Place) (back : List String) (disk : Disk) : Prop where
  named : disk.tree.IsWellNamed
  anchored : IsAnchored root ground back disk
  noLink : ∀ target, disk.tree.lookup (lockPlace ground back) ≠ some (.link target)

/-- Nobody's lock has been given up or made void. -/
structure SparesLock (ground : Place) (back : List String) (before after : Disk) : Prop where
  locked : after.locked = before.locked
  key : ∀ key, before.keyAt? (lockPlace ground back) = some key →
    after.keyAt? (lockPlace ground back) = some key

/-- How everybody may treat a workspace: all locks stay good. -/
def sharing (root : String) (ground : Place) (back : List String) : Rule where
  holds := IsShared root ground back
  allows := SparesLock ground back
  refl _ := ⟨rfl, fun _ => id⟩

theorem SparesLock.trans {ground : Place} {back : List String} {first second third : Disk}
    (one : SparesLock ground back first second) (two : SparesLock ground back second third) :
    SparesLock ground back first third :=
  ⟨two.locked.trans one.locked, fun key held => two.key key (one.key key held)⟩

section Sharing

variable {root : String} {ground : Place} {back : List String} {before after : Disk}
variable {Result : Type}

theorem not_sandboxPlace_suffix : ¬ sandboxPlace ground back <:+ lockPlace ground back := by
  intro inside
  rw [sandboxPlace_eq] at inside
  have same := inside.eq_of_length (by simp [lockPlace, rootPlace])
  exact absurd (List.head_eq_of_cons_eq same) (by decide)

theorem IsShared.extended (shared : IsShared root ground back before)
    (adds : before.Extends after) : IsShared root ground back after where
  named := adds.named shared.named
  anchored := shared.anchored.extended adds
  noLink target := (adds.builds.places _).ne_link (shared.noLink target)

theorem IsShared.of_same (shared : IsShared root ground back before)
    (current : after.current = before.current) (tree : after.tree = before.tree) :
    IsShared root ground back after :=
  shared.extended (.of_same current fun _ => by rw [tree])

theorem IsShared.seenFrom (shared : IsShared root ground back before)
    (absolute : Path.isAbsolute root = true) (current : Place) :
    IsShared root ground back { before with current } where
  named := shared.named
  anchored :=
    { proper := shared.anchored.proper
      reaches := by
        have reaches := shared.anchored.reaches
        rw [Place.origin, if_pos absolute] at reaches ⊢
        exact reaches
      noLink := shared.anchored.noLink }
  noLink := shared.noLink

theorem IsShared.emptied (shared : IsShared root ground back before)
    (empties : before.Empties (sandboxPlace ground back) after) :
    IsShared root ground back after where
  named := empties.wellNamed shared.named
  anchored := by
    refine shared.anchored.kept empties.keepsOutside fun target isLink => ?_
    rw [empties.lookup_place] at isLink
    exact shared.anchored.noLink _ (List.prefix_refl _) (by simp [sandboxNames]) target isLink
  noLink target isLink := by
    rcases empties.places (lockPlace ground back) with same | ⟨-, inside, -⟩
    · exact shared.noLink target (same.symm.trans isLink)
    · exact not_sandboxPlace_suffix inside

theorem SparesLock.emptied (locked : after.locked = before.locked)
    (empties : before.Empties (sandboxPlace ground back) after) :
    SparesLock ground back before after where
  locked := locked
  key key held := by
    rcases empties.places (lockPlace ground back) with same | ⟨-, inside, -⟩
    · rwa [Disk.keyAt?, same]
    · exact absurd inside not_sandboxPlace_suffix

theorem obeys_adding {piece : Disk → Result × Disk} (single : IsSingle piece)
    (adds : ∀ disk : Disk, disk.Extends (piece disk).2)
    (locked : ∀ disk, (piece disk).2.locked = disk.locked) :
    (sharing root ground back).Obeys piece :=
  .single single (fun disk shared => ⟨shared.extended (adds disk), locked disk,
    fun _ => (adds disk).keyAt?⟩) fun _ _ => trivial

theorem obeys_reading {action : Disk → Except Cause (Result × Disk)}
    (reads : ∀ disk result changed, action disk = .ok (result, changed) → changed = disk) :
    (sharing root ground back).Obeys (attempt action) :=
  obeys_adding (.attempt action) (.attempt reads) fun disk => by
    rw [attempt_reads reads]
    exact disk.nextFault_locked

theorem obeys_makeDirectory (path : String) :
    (sharing root ground back).Obeys (makeDirectory path) :=
  obeys_adding (.attempt _) (.makeDirectory path) (makeDirectory_locked path)

theorem obeys_makeDirectories (path : String) :
    (sharing root ground back).Obeys (makeDirectories path) :=
  @Rule.Obeys.makeDirectoriesUp _ (fun _ => True) (fun path _ => obeys_makeDirectory path)
    (fun _ _ _ => id) _ path trivial

theorem obeys_fill (path : String) (executable : Bool) (bytes : ByteArray) :
    (sharing root ground back).Obeys
      (openForWriting path true executable >>= fun handle => storeBytes handle bytes) :=
  obeys_adding (.fill path executable bytes) (.fill path executable bytes)
    (fill_locked path executable bytes)

theorem obeys_copyFile (source destination : String) :
    (sharing root ground back).Obeys (copyFile source destination) := by
  refine .bind (obeys_reading fun disk copied changed took => ?_) fun copied =>
    obeys_fill destination copied.2 copied.1
  split at took <;> cases took
  rfl

/-- The names that are read in a directory are names that entries can have. -/
theorem promises_readDirectory (path : String) :
    (sharing root ground back).Promises (Rule.Succeeds fun names => ∀ name ∈ names,
      Path.IsProper name) (readDirectory path) := by
  refine .single (.attempt _) (fun disk shared => ?_) fun disk shared names read => ?_
  · have adds := Disk.Extends.readDirectory path disk
    refine ⟨shared.extended adds, ?_, fun _ => adds.keyAt?⟩
    refine attempt_locked (fun _ _ _ took => ?_) disk
    split at took <;> cases took
    rfl
  · obtain ⟨place, -, rfl, -⟩ := readDirectory_done (Prod.ext read rfl)
    intro name isMember
    obtain ⟨entry, there⟩ := Tree.mem_names_iff.mp isMember
    exact shared.named _ entry there name List.mem_cons_self

theorem empties_removeFile {name : String} (anchored : IsAnchored root ground back before)
    (proper : Path.IsProper name) {answer : Except Cause Unit}
    (done : removeFile (Path.join (inside root).sandboxDir name) before = (answer, after)) :
    before.Empties (sandboxPlace ground back) after := by
  have properName : ∀ other ∈ [name], Path.IsProper other := by simpa using proper
  rcases attempt_cases done with ⟨_, -, rfl⟩ | ⟨⟨⟩, rfl, -⟩
  · exact .nextFault _ before
  · obtain ⟨_, _, found, -⟩ := removeFile_done done
    obtain ⟨holder, leads⟩ := Tree.leads_of_find_joinAll properName found
    obtain ⟨rfl, -⟩ := anchored.place_eq leads
    obtain ⟨current, tree⟩ := removeFile_clears leads proper done
    exact .clear leads.lookup current tree

theorem empties_removeTree {name : String} (anchored : IsAnchored root ground back before)
    (proper : Path.IsProper name) {answer : Except Cause Unit}
    (done : removeTree (Path.join (inside root).sandboxDir name) before = (answer, after)) :
    before.Empties (sandboxPlace ground back) after := by
  have properName : ∀ other ∈ [name], Path.IsProper other := by simpa using proper
  rcases attempt_cases done with ⟨_, -, rfl⟩ | ⟨⟨⟩, rfl, -⟩
  · exact .nextFault _ before
  · obtain ⟨_, _, found, -⟩ := removeTree_done done
    obtain ⟨holder, leads⟩ := Tree.leads_of_find_joinAll properName found
    obtain ⟨rfl, plain⟩ := anchored.place_eq leads
    obtain ⟨current, tree⟩ := removeTree_clears leads
      (fun _ => anchored.leadsWithout plain leads.lookup) proper done
    exact .clear leads.lookup current tree

theorem obeys_removeFile {name : String} (proper : Path.IsProper name) :
    (sharing root ground back).Obeys
      (removeFile (Path.join (inside root).sandboxDir name)) := by
  refine .single (.attempt _) (fun disk shared => ?_) fun _ _ => trivial
  have empties := empties_removeFile shared.anchored proper (Prod.eta _).symm
  exact ⟨shared.emptied empties, .emptied (removeFile_locked _ disk) empties⟩

theorem obeys_removeTree {name : String} (proper : Path.IsProper name) :
    (sharing root ground back).Obeys
      (removeTree (Path.join (inside root).sandboxDir name)) := by
  refine .single (.attempt _) (fun disk shared => ?_) fun _ _ => trivial
  have empties := empties_removeTree shared.anchored proper (Prod.eta _).symm
  exact ⟨shared.emptied empties, .emptied (removeTree_locked _ disk) empties⟩

theorem obeys_emptyDirectory :
    (sharing root ground back).Obeys (emptyDirectory (inside root).sandboxDir) := by
  refine ((promises_readDirectory _).reportedFor _).bind fun names proper => ?_
  refine Rule.Obeys.forM fun name isMember => ?_
  have isProper := proper name isMember
  refine .bind (Rule.ask _) fun isDirectory => ?_
  split
  next => exact (obeys_removeTree isProper).reportedFor _
  next => exact (obeys_removeFile isProper).reportedFor _

theorem obeys_copyTree (levels : Nat) (source destination : String) :
    (sharing root ground back).Obeys (copyTree levels source destination) := by
  induction levels generalizing source destination with
  | zero => exact Rule.done _
  | succ levels ih =>
      refine ((promises_readDirectory _).reportedFor _).bind fun names _ => ?_
      refine Rule.Obeys.forM fun name _ => .bind (Rule.ask _) fun isDirectory => ?_
      split
      next => exact .bind ((obeys_makeDirectories _).reportedFor _) fun _ => ih _ _
      next => exact (obeys_copyFile _ _).reportedFor _

theorem obeys_sow (workspace : Workspace) (seed : Seed) :
    (sharing root ground back).Obeys (workspace.sow seed) := by
  cases seed with
  | none => exact Rule.done _
  | bundled => exact Rule.Obeys.forM fun sample _ => (obeys_fill _ _ _).reportedFor _
  | directory path => exact obeys_copyTree pathLimit path workspace.sourceDir

theorem obeys_ensureReady (workspace : Workspace) (seed : Seed) :
    (sharing root ground back).Obeys (workspace.ensureReady seed) := by
  have completes : (sharing root ground back).Obeys
      ((makeDirectories workspace.classDir).reportedFor workspace.classDir) :=
    (obeys_makeDirectories _).reportedFor _
  refine .bind (Rule.ask _) fun present => ?_
  dsimp only
  split
  next =>
    refine .bind ((obeys_makeDirectories _).reportedFor _) fun _ => ?_
    exact .bind (obeys_sow workspace seed) fun _ => .bind completes fun _ => Rule.done _
  next => exact .bind completes fun _ => Rule.done _

/-- So does a reset. -/
theorem obeys_reset (seed : Seed) :
    (sharing root ground back).Obeys ((inside root).reset seed) := by
  refine .bind (Rule.ask _) fun present => ?_
  split
  next =>
    refine .bind obeys_emptyDirectory fun _ => ?_
    exact .bind (obeys_ensureReady _ seed) fun _ => Rule.done _
  next => exact .bind (obeys_ensureReady _ seed) fun _ => Rule.done _

end Sharing

end Workspace

end SnippetSandbox
