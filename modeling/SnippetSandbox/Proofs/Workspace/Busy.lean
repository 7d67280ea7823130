import SnippetSandbox.Proofs.FileSystem.Schedule
import SnippetSandbox.Proofs.Workspace.Locking

/-!
# Finding the workspace busy

Whoever finds the lock taken has made the way to the lock file before, as far as it was missing,
and opened the lock file, which was there already: nobody holds a lock on a file that is new.  So
nothing is left of the attempt but directories on the path of the root.
-/

namespace SnippetSandbox

open FileSystem

namespace FileSystem

variable {path : String} {before after : Disk}

/-- Directories have been made on the way along a path, and no file or lock is new. -/
structure Disk.Nears (path : String) (before after : Disk) : Prop where
  adds : before.AddsDirectories path after
  locked : after.locked = before.locked
  nextIdentity : after.tree.nextIdentity = before.tree.nextIdentity
  faults : after.faults <:+ before.faults

namespace Disk.Nears

theorem refl (path : String) (disk : Disk) : disk.Nears path disk :=
  ⟨.refl path disk, rfl, rfl, List.suffix_refl _⟩

theorem trans {first second third : Disk} (one : first.Nears path second)
    (two : second.Nears path third) : first.Nears path third where
  adds := one.adds.trans two.adds
  locked := two.locked.trans one.locked
  nextIdentity := two.nextIdentity.trans one.nextIdentity
  faults := two.faults.trans one.faults

theorem makeDirectory (path : String) :
    Effect.Relates (Disk.Nears path) (FileSystem.makeDirectory path) := by
  intro before
  refine ⟨AddsDirectories.makeDirectory path before, makeDirectory_locked path before, ?_,
    attempt_faults (fun disk result changed took => ?_) before⟩
  · rcases done : FileSystem.makeDirectory path before with ⟨answer, after⟩
    rcases makeDirectory_cases done with ⟨-, rfl⟩ | ⟨-, place, slash, -, -, tree⟩
    · rw [before.nextFault_tree]
    · rw [tree]
      rfl
  · split at took <;> cases took
    rfl

theorem up {around : String} (isParent : Path.parent? path = some around)
    (nears : before.Nears around after) : before.Nears path after :=
  { nears with adds := nears.adds.up isParent }

theorem makeDirectories (path : String) :
    Effect.Relates (Disk.Nears path) (FileSystem.makeDirectories path) :=
  relates_makeDirectoriesUp refl (fun _ => trans) makeDirectory up _ path

end Disk.Nears

/-- An opened file that was there is known by what the file was known by. -/
theorem openForWriting_key {truncate executable : Bool} {handle : Handle} {place : Place}
    {entry : Entry}
    (opened : openForWriting path truncate executable before = (.ok handle, after))
    (found : before.tree.find before.current .newFile path = .ok (.present place entry)) :
    entry.key? = some handle.key := by
  obtain ⟨-, took⟩ := attempt_done opened
  rw [Disk.nextFault_tree, Disk.nextFault_current, found] at took
  cases entry <;> cases took <;> rfl

theorem openForWriting_new {truncate executable : Bool} {handle : Handle} {place : Place}
    {slash : Bool}
    (opened : openForWriting path truncate executable before = (.ok handle, after))
    (found : before.tree.find before.current .newFile path = .ok (.absent place slash)) :
    handle.key = .file before.tree.nextIdentity := by
  obtain ⟨-, took⟩ := attempt_done opened
  rw [Disk.nextFault_tree, Disk.nextFault_current, found] at took
  cases took
  rfl

/-- Where no fault strikes, a file that can be locked can be opened. -/
theorem openForWriting_of_key {disk : Disk} {place : Place} {entry : Entry} {key : FileKey}
    (calm : disk.faults = []) (truncate executable : Bool)
    (found : disk.tree.find disk.current .newFile path = .ok (.present place entry))
    (isKey : entry.key? = some key) :
    ∃ handle opened, openForWriting path truncate executable disk = (.ok handle, opened) ∧
      handle.key = key ∧ opened.locked = disk.locked ∧ opened.faults = [] := by
  cases entry with
  | directory | link => cases isKey
  | file identity content mode =>
      cases isKey
      let kept := if truncate then ByteArray.empty else content
      let opened := { disk with tree := disk.tree.put place (.file identity kept mode) }
      refine ⟨.file place identity mode, opened, attempt_of_ok calm ?_, rfl, rfl, calm⟩
      rw [found]
  | device kind =>
      cases isKey
      refine ⟨.device kind, disk, attempt_of_ok calm ?_, rfl, rfl, calm⟩
      rw [found]

end FileSystem

namespace Workspace

variable {root : String} {before after : Disk}

/-- Somebody has the lock: when the way to the lock file has been made, its path leads to a file
that is locked. -/
def IsHeld (workspace : Workspace) (disk : Disk) : Prop :=
  ∃ near place entry key, workspace.approach disk = (.ok (), near) ∧
    near.tree.find near.current .newFile workspace.lockFile = .ok (.present place entry) ∧
    entry.key? = some key ∧ key ∈ disk.locked

theorem nears_approach : Effect.Relates (Disk.Nears root) (inside root).approach := by
  rw [approach]
  split
  next around isParent =>
    have proper : Path.IsProper "sandbox.lock" := by decide
    obtain ⟨sameStart, sameNames⟩ := Path.names_parent_join proper isParent
    refine relates_reportedFor (fun disk => ?_) around
    have nears := Disk.Nears.makeDirectories around disk
    exact { nears with adds := nears.adds.of_prefix sameStart (sameNames ▸ List.prefix_refl _) }
  next => exact .refl root

theorem approach_failed {workspace : Workspace} {failure : Failure}
    (failed : workspace.approach before = (.error failure, after)) :
    ∃ path cause, failure = .fileSystem path cause := by
  cases parent : Path.parent? workspace.lockFile with
  | none =>
      rw [approach, parent] at failed
      cases failed
  | some around =>
      rw [approach, parent] at failed
      obtain ⟨told, -, same⟩ := reportedFor_done failed
      cases told with
      | error cause => exact ⟨around, cause, Except.error.inj same⟩
      | ok made => cases same

/-- Where no fault strikes, whoever wants a lock that somebody has finds the workspace busy, and
leaves behind the way to the lock file. -/
theorem lock_of_held {near : Disk} {place : Place} {entry : Entry} {key : FileKey}
    (calm : before.faults = []) (approached : (inside root).approach before = (.ok (), near))
    (found : near.tree.find near.current .newFile (inside root).lockFile =
      .ok (.present place entry)) (isKey : entry.key? = some key) (isLocked : key ∈ before.locked) :
    ∃ after, (inside root).lock before = (.error (.workspaceBusy (inside root).lockFile), after) ∧
      ∀ other, after.tree.lookup other = near.tree.lookup other := by
  have nears := nears_approach.states approached
  have calmNear : near.faults = [] := List.suffix_nil.mp (calm ▸ nears.faults)
  obtain ⟨handle, opened, opens, rfl, locked, calmOpened⟩ :=
    openForWriting_of_key calmNear false false found isKey
  have refused : takeLock handle.key opened = (.error .wouldBlock, opened) := by
    refine attempt_of_error calmOpened ?_
    rw [locked, nears.locked, if_pos isLocked]
  refine ⟨opened, ?_, openForWriting_same opens found⟩
  rw [lock_of_take approached opens, take_of_error refused, if_pos rfl]

/-- A workspace is busy only because somebody has the lock, and whoever has found that out has
made directories on the path of the root at most. -/
theorem lock_busy
    (locks : (inside root).lock before = (.error (.workspaceBusy (inside root).lockFile), after))
    (known : ∀ identity, .file identity ∈ before.locked → identity < before.tree.nextIdentity)
    (noBlock : ∀ fault, some fault ∈ before.faults → fault.cause ≠ .wouldBlock) :
    (inside root).IsHeld before ∧ before.AddsDirectories root after ∧
      after.locked = before.locked := by
  rcases approached : (inside root).approach before with ⟨failure | ⟨⟩, near⟩
  · obtain ⟨path, cause, rfl⟩ := approach_failed approached
    cases (lock_of_approach approached).symm.trans locks
  have nears := nears_approach.states approached
  rcases opens : openForWriting (inside root).lockFile false false near with
    ⟨cause | handle, opened⟩
  · cases (lock_of_open approached opens).symm.trans locks
  have lockedOpened : opened.locked = before.locked := by
    have locked := openForWriting_locked (inside root).lockFile false false near
    rw [opens] at locked
    exact locked.trans nears.locked
  have faultsOpened : opened.faults <:+ before.faults := by
    have left := openForWriting_faults (inside root).lockFile false false near
    rw [opens] at left
    exact left.trans nears.faults
  rw [lock_of_take approached opens] at locks
  rcases took : takeLock handle.key opened with ⟨answer, last⟩
  rcases takeLock_done took with ⟨rfl, -, -⟩ | ⟨fault, strikes, rfl, -⟩ | ⟨-, isHeld, rfl, rfl⟩
  · rw [take, took] at locks
    cases locks
  · have isScheduled : some fault ∈ before.faults :=
      faultsOpened.mem (Disk.mem_faults_of_nextFault strikes)
    rw [take_of_error took, if_neg (noBlock fault isScheduled)] at locks
    cases locks
  · cases (take_of_error took).symm.trans locks
    obtain ⟨target, found, current, -⟩ := openForWriting_done opens
    rw [lockedOpened] at isHeld
    cases target with
    | absent place slash =>
        -- A file that is new would be known by an identity that no locked file has.
        rw [openForWriting_new opens found, nears.nextIdentity] at isHeld
        exact absurd (known _ isHeld) (Nat.lt_irrefl _)
    | present place entry =>
        refine ⟨⟨near, place, entry, handle.key, approached, found, openForWriting_key opens found,
          isHeld⟩, ?_, ?_⟩
        · refine nears.adds.trans ⟨?_, fun other => .inl ?_⟩
          · rw [opened.nextFault_current, current]
          · rw [opened.nextFault_tree, openForWriting_same opens found]
        · rw [opened.nextFault_locked, lockedOpened]

end Workspace

end SnippetSandbox
