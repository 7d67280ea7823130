import Mathlib.Tactic.ByContra
import SnippetSandbox.Proofs.Workspace.Sharing

/-!
# Taking the lock

Whoever wants the lock makes the way to the lock file, opens the file, and takes the lock on
the file it has opened.  Up to the last step nothing changes but that the way and the file are
there afterwards, so nothing changes at all while somebody has the lock.
-/

namespace SnippetSandbox

open FileSystem

namespace FileSystem

theorem openForWriting_same {path : String} {executable : Bool} {before after : Disk}
    {handle : Handle} {place : Place} {entry : Entry}
    (opened : openForWriting path false executable before = (.ok handle, after))
    (found : before.tree.find before.current .newFile path = .ok (.present place entry))
    (other : Place) : after.tree.lookup other = before.tree.lookup other := by
  obtain ⟨target, again, -, atEnd⟩ := openForWriting_done opened
  cases found.symm.trans again
  cases handle with
  | device kind => rw [atEnd.2]
  | file _ identity mode =>
      obtain ⟨rfl, content, there, rewritten⟩ := atEnd
      by_cases here : other = place
      · obtain ⟨kept, rfl⟩ := openForWriting_present opened found
        obtain ⟨-, took⟩ := attempt_done opened
        rw [Disk.nextFault_tree, Disk.nextFault_current, found] at took
        cases took
        obtain ⟨name, around, rfl, holder⟩ := Tree.find_inside found (by simp [Target.entryAt?])
        have held : before.tree.lookup (name :: around) = some (.file identity kept mode) :=
          Tree.find_ends found
        rw [here, held]
        exact Tree.lookup_put_self _ _ holder
      · exact rewritten.same other here

/-- The lock on a file is taken unless somebody has it or a fault strikes. -/
theorem takeLock_done {key : FileKey} {before after : Disk} {answer : Except Cause Unit}
    (done : takeLock key before = (answer, after)) :
    (answer = .ok () ∧ key ∉ before.locked ∧
      after = { before.nextFault.2 with locked := key :: before.locked }) ∨
    (∃ fault, before.nextFault.1 = some fault ∧ answer = .error fault.cause ∧
      after = before.nextFault.2) ∨
    (before.nextFault.1 = none ∧ key ∈ before.locked ∧ answer = .error .wouldBlock ∧
      after = before.nextFault.2) := by
  rw [takeLock, attempt] at done
  split at done
  next fault rest next =>
    cases done
    exact .inr (.inl ⟨fault, by rw [next], rfl, by rw [next]⟩)
  next rest next =>
    have locked : rest.locked = before.locked := by rw [← before.nextFault_locked, next]
    rw [locked] at done
    split at done
    next result changed took =>
      split at took
      next => cases took
      next isFree =>
        cases took
        cases done
        exact .inl ⟨rfl, isFree, by rw [next]⟩
    next cause refused =>
      split at refused
      next isHeld =>
        cases refused
        cases done
        exact .inr (.inr ⟨by rw [next], isHeld, rfl, by rw [next]⟩)
      next => cases refused

end FileSystem

namespace Workspace

/-- Make the directory of the lock file. -/
def approach (workspace : Workspace) : Task Unit :=
  match Path.parent? workspace.lockFile with
  | some around => (makeDirectories around).reportedFor around
  | none => pure ()

/-- Take the lock on the file that has been opened. -/
def take (workspace : Workspace) (handle : Handle) : Task FileKey := fun disk =>
  match takeLock handle.key disk with
  | (.ok _, changed) => (.ok handle.key, changed)
  | (.error .wouldBlock, changed) => (.error (.workspaceBusy workspace.lockFile), changed)
  | (.error cause, changed) => (.error (.fileSystem workspace.lockFile cause), changed)

theorem lock_eq (workspace : Workspace) : workspace.lock = (do
    workspace.approach
    let handle ← (openForWriting workspace.lockFile false false).reportedFor workspace.lockFile
    workspace.take handle) := by
  rw [lock, approach]
  generalize Path.parent? workspace.lockFile = parent
  cases parent <;> rfl

/-- What one of those who share a workspace does about the lock, by which lock it has before
and after. -/
inductive Turns (lock : Place) (before after : Disk) : Option FileKey → Option FileKey → Prop
  | same {key : Option FileKey} (locked : after.locked = before.locked) :
      Turns lock before after key key
  | takes {key : FileKey} (isFree : key ∉ before.locked) (there : after.keyAt? lock = some key)
      (locked : after.locked = key :: before.locked) : Turns lock before after none (some key)
  | gives {key : FileKey} (locked : after.locked = before.locked.erase key) :
      Turns lock before after (some key) none

theorem Turns.congr {lock : Place} {before after first last : Disk} {had has : Option FileKey}
    (turns : Turns lock before after had has) (sameBefore : first.locked = before.locked)
    (sameAfter : last.locked = after.locked) (tree : last.tree = after.tree) :
    Turns lock first last had has := by
  cases turns with
  | same locked => exact .same (by rw [sameAfter, locked, sameBefore])
  | takes isFree there locked =>
      refine .takes (sameBefore ▸ isFree) ?_ (by rw [sameAfter, locked, sameBefore])
      rwa [Disk.keyAt?, tree]
  | gives locked => exact .gives (by rw [sameAfter, locked, sameBefore])

section Holders

variable {ι : Type} {lock : Place} {holder later : ι → Option FileKey} {before after : Disk}
variable {i : ι} {key : FileKey}

/-- Nobody has the lock. -/
structure IsFree (holder : ι → Option FileKey) (disk : Disk) : Prop where
  none : ∀ i, holder i = none
  locked : disk.locked = []

/-- This one and nobody else has the lock, which is on the file at the lock's place. -/
structure IsHeldBy (lock : Place) (holder : ι → Option FileKey) (disk : Disk) (i : ι)
    (key : FileKey) : Prop where
  holds : holder i = some key
  others : ∀ j, j ≠ i → holder j = none
  locked : disk.locked = [key]
  there : disk.keyAt? lock = some key

def IsExclusive (lock : Place) (holder : ι → Option FileKey) (disk : Disk) : Prop :=
  IsFree holder disk ∨ ∃ i key, IsHeldBy lock holder disk i key

theorem IsExclusive.heldBy (exclusive : IsExclusive lock holder before)
    (holds : holder i = some key) : IsHeldBy lock holder before i key := by
  rcases exclusive with free | ⟨j, other, held⟩
  · rw [free.none i] at holds
    cases holds
  · have same : i = j := by
      by_contra different
      rw [held.others i different] at holds
      cases holds
    subst same
    rw [held.holds] at holds
    cases holds
    exact held

/-- Where nothing has happened to the lock, it is where it was. -/
theorem IsExclusive.stays (exclusive : IsExclusive lock holder before)
    (kept : ∀ key, before.keyAt? lock = some key → after.keyAt? lock = some key)
    (locked : after.locked = before.locked) : IsExclusive lock holder after := by
  rcases exclusive with free | ⟨i, key, held⟩
  · exact .inl ⟨free.none, locked.trans free.locked⟩
  · exact .inr ⟨i, key, held.holds, held.others, locked.trans held.locked, kept key held.there⟩

theorem IsHeldBy.released (held : IsHeldBy lock holder before i key) (gives : later i = none)
    (others : ∀ j, j ≠ i → later j = holder j)
    (locked : after.locked = before.locked.erase key) : IsFree later after where
  none j := by
    by_cases here : j = i
    · rw [here, gives]
    · rw [others j here, held.others j here]
  locked := by simp [locked, held.locked]

/-- Whatever one of them does about the lock, it is with one of them at most. -/
theorem IsExclusive.turns (exclusive : IsExclusive lock holder before) (i : ι)
    (kept : ∀ key, before.keyAt? lock = some key → after.keyAt? lock = some key)
    (turns : Turns lock before after (holder i) (later i))
    (others : ∀ j, j ≠ i → later j = holder j) : IsExclusive lock later after := by
  generalize hadLock : holder i = had at turns
  generalize hasLock : later i = has at turns
  cases turns with
  | same locked =>
      have same : later = holder := by
        funext j
        by_cases here : j = i
        · rw [here, hasLock, hadLock]
        · exact others j here
      rw [same]
      exact exclusive.stays kept locked
  | @takes key isFree there locked =>
      rcases exclusive with free | ⟨j, other, held⟩
      · refine .inr ⟨i, key, hasLock, fun j apart => ?_, ?_, there⟩
        · rw [others j apart, free.none j]
        · rw [locked, free.locked]
      · -- The lock on the file at the lock's place would have been taken already.
        rw [kept other held.there] at there
        cases there
        exact absurd (by simp [held.locked]) isFree
  | gives locked => exact .inl ((exclusive.heldBy hadLock).released hasLock others locked)

end Holders

section Taking

variable {workspace : Workspace} {before near found : Disk}

theorem lock_of_approach {failure : Failure}
    (approached : workspace.approach before = (.error failure, near)) :
    workspace.lock before = (.error failure, near) := by
  rw [lock_eq, Effect.bind_of_error approached]

theorem lock_of_open {cause : Cause} (approached : workspace.approach before = (.ok (), near))
    (opened : openForWriting workspace.lockFile false false near = (.error cause, found)) :
    workspace.lock before = (.error (.fileSystem workspace.lockFile cause), found) := by
  have reported : (openForWriting workspace.lockFile false false).reportedFor workspace.lockFile
      near = (.error (.fileSystem workspace.lockFile cause), found) := by
    rw [Operation.reportedFor, opened]
  rw [lock_eq, Effect.bind_of_ok approached, Effect.bind_of_error reported]

theorem lock_of_take {handle : Handle} (approached : workspace.approach before = (.ok (), near))
    (opened : openForWriting workspace.lockFile false false near = (.ok handle, found)) :
    workspace.lock before = workspace.take handle found := by
  rw [lock_eq, Effect.bind_of_ok approached,
    Effect.bind_of_ok (reportedFor_of_ok opened)]

/-- Whoever is refused because the lock is taken is told that the workspace is busy. -/
theorem take_of_error {handle : Handle} {cause : Cause}
    (refused : takeLock handle.key before = (.error cause, found)) :
    workspace.take handle before =
      (.error (if cause = .wouldBlock then .workspaceBusy workspace.lockFile
        else .fileSystem workspace.lockFile cause), found) := by
  rw [take, refused]
  by_cases blocks : cause = .wouldBlock
  · rw [if_pos blocks, blocks]
    rfl
  · rw [if_neg blocks]
    split
    next same => cases same
    next same =>
      cases same
      exact absurd rfl blocks
    next same =>
      cases same
      rfl

end Taking

/-- How the lock may be approached: nothing changes but what is missing on the way to it. -/
def approaching (root : String) (ground : Place) (back : List String) : Rule where
  holds := IsShared root ground back
  allows before after := SparesLock ground back before after ∧
    ∀ place, after.tree.lookup place = before.tree.lookup place ∨
      before.tree.lookup place = none ∧ place <:+ lockPlace ground back
  refl _ := ⟨⟨rfl, fun _ => id⟩, fun _ => .inl rfl⟩

section Approach

variable {root : String} {ground : Place} {back : List String} {before after : Disk}

/-- Directories on the path of the root are made on the way to the root. -/
theorem IsAnchored.adds_root (anchored : IsAnchored root ground back before) {path : String}
    (isPrefix : Path.names path <+: Path.names root)
    (sameStart : Path.isAbsolute path = Path.isAbsolute root)
    (adds : before.AddsDirectories path after) (place : Place) :
    after.tree.lookup place = before.tree.lookup place ∨
      before.tree.lookup place = none ∧ place <:+ rootPlace ground back := by
  obtain ⟨front, spelled, reaches⟩ := anchored.reaches
  have reachesHere : before.tree.Reaches (before.current.origin path) front ground := by
    rw [Place.origin, sameStart]
    exact reaches before.tree fun _ _ _ _ found => found
  rw [spelled] at isPrefix
  rcases List.prefix_or_prefix_of_prefix isPrefix (List.prefix_append front back) with
    isFront | ⟨part, written⟩
  · exact .inl (adds.same_of_reaches isFront reachesHere place)
  · rw [← written] at isPrefix
    have isPart := (List.prefix_append_right_inj front).mp isPrefix
    have properPart : ∀ name ∈ part, Path.IsProper name :=
      fun name isMember => anchored.proper name (isPart.subset isMember)
    have plain : before.tree.IsPlainBelow ground part :=
      fun shown isShown => anchored.noLink shown
        ((isShown.trans isPart).trans (List.prefix_append back ["sandbox"]))
    rcases adds.spelled_below written.symm reachesHere properPart plain place with
      same | ⟨free, -, shown, isShown, -, rfl⟩
    · exact .inl same
    · exact .inr ⟨free, spelled_suffix (isShown.trans isPart) ground⟩

theorem obeys_approach :
    (approaching root ground back).Obeys (inside root).approach := by
  rw [approach]
  split
  next around isParent =>
    refine Rule.Obeys.reportedFor ?_ _
    refine @Rule.Obeys.makeDirectoriesUp _ (fun path => Path.names path <+: Path.names root ∧
      Path.isAbsolute path = Path.isAbsolute root) (fun path isFit => ?_) ?_ _ _ ?_
    · refine .single (.attempt _) (fun disk shared => ?_) fun _ _ => trivial
      have adds := Disk.Extends.makeDirectory path disk
      refine ⟨shared.extended adds, ⟨makeDirectory_locked path disk, fun _ => adds.keyAt?⟩,
        fun place => ?_⟩
      refine (shared.anchored.adds_root isFit.1 isFit.2
        (Disk.AddsDirectories.makeDirectory path disk) place).imp_right fun ⟨free, isAround⟩ => ?_
      exact ⟨free, isAround.trans (List.suffix_cons _ _)⟩
    · intro path upper isParent ⟨isPrefix, same⟩
      obtain ⟨sameStart, fewer⟩ := Path.names_parent isParent
      rw [fewer, sameStart]
      exact ⟨(List.dropLast_prefix _).trans isPrefix, same⟩
    · have proper : Path.IsProper "sandbox.lock" := by decide
      obtain ⟨sameStart, sameNames⟩ := Path.names_parent_join proper isParent
      exact ⟨sameNames ▸ List.prefix_refl _, sameStart⟩
  next => exact Rule.done _

/-- The path of the lock file ends at its place when it leads anywhere. -/
theorem IsShared.place_eq (shared : IsShared root ground back before) {purpose : Purpose}
    {target : Target}
    (found : before.tree.find before.current purpose (inside root).lockFile = .ok target) :
    target.place = lockPlace ground back := by
  have proper : ∀ name ∈ ["sandbox.lock"], Path.IsProper name := by decide
  obtain ⟨holder, leads⟩ := Tree.leads_of_find_joinAll proper found
  obtain ⟨front, spelled, reaches⟩ := shared.anchored.reaches
  have reachesHere := reaches before.tree fun _ _ _ _ found => found
  have plain : before.tree.IsPlainBelow ground back := fun shown isShown =>
    shared.anchored.noLink shown (isShown.trans (List.prefix_append back ["sandbox"]))
  have further := leads
  rw [Tree.Leads, spelled] at further
  obtain ⟨rfl, -⟩ := reachesHere.down shared.anchored.proper plain further
  exact (leads.find_below (by simp) proper (.singleton shared.noLink) found).1

/-- Opening the lock file makes it where it was missing, and whoever has opened it can take the
lock on the file that is there. -/
theorem openForWriting_lock (shared : IsShared root ground back before)
    {answer : Except Cause Handle}
    (opened : openForWriting (inside root).lockFile false false before = (answer, after)) :
    IsShared root ground back after ∧ (approaching root ground back).allows before after ∧
      ∀ handle, answer = .ok handle →
        after.keyAt? (lockPlace ground back) = some handle.key := by
  have adds := (Disk.Extends.openForWriting _ _ _).states opened
  have locked := openForWriting_locked (inside root).lockFile false false before
  rw [opened] at locked
  refine ⟨shared.extended adds, ⟨⟨locked, fun _ => adds.keyAt?⟩, fun place => ?_⟩, ?_⟩
  · cases answer with
    | error cause => exact .inl (by rw [(openForWriting_failed opened).2])
    | ok handle =>
        obtain ⟨target, found, -, atEnd⟩ := openForWriting_done opened
        have atLock := shared.place_eq found
        have there := Tree.find_ends found
        cases target with
        | present other entry =>
            exact .inl (openForWriting_same opened found place)
        | absent other slash =>
            cases handle with
            | device kind => exact .inl (by rw [atEnd.2])
            | file other identity mode =>
                obtain ⟨rfl, _, -, rewritten⟩ := atEnd
                by_cases here : place = other
                · exact .inr ⟨here ▸ there, here ▸ atLock ▸ List.suffix_refl _⟩
                · exact .inl (rewritten.same place here)
  · rintro handle rfl
    obtain ⟨target, found, -, atEnd⟩ := openForWriting_done opened
    rw [← shared.place_eq found, Disk.keyAt?]
    cases handle with
    | device kind =>
        obtain ⟨isDevice, same⟩ := atEnd
        rw [same, Tree.find_ends found, isDevice]
        rfl
    | file other identity mode =>
        obtain ⟨rfl, _, there, -⟩ := atEnd
        rw [there]
        rfl

/-- What comes of asking for the lock on the file that has been opened. -/
theorem take_turns (shared : IsShared root ground back before) {handle : Handle}
    (there : before.keyAt? (lockPlace ground back) = some handle.key)
    {answer : Except Failure FileKey} (takes : (inside root).take handle before = (answer, after)) :
    IsShared root ground back after ∧ after.tree = before.tree ∧
      Turns (lockPlace ground back) before after none answer.toOption := by
  have rests : IsShared root ground back before.nextFault.2 := shared.extended (.nextFault before)
  have still := before.nextFault_locked
  rcases took : takeLock handle.key before with ⟨reply, last⟩
  rcases takeLock_done took with ⟨rfl, isFree, rfl⟩ | ⟨fault, -, rfl, rfl⟩ | ⟨-, -, rfl, rfl⟩
  · rw [take, took] at takes
    cases takes
    refine ⟨rests.of_same rfl rfl, before.nextFault_tree, .takes isFree ?_ rfl⟩
    rwa [Disk.keyAt?, before.nextFault_tree]
  · cases takes.symm.trans (take_of_error took)
    exact ⟨rests, before.nextFault_tree, .same still⟩
  · cases takes.symm.trans (take_of_error took)
    exact ⟨rests, before.nextFault_tree, .same still⟩

theorem approaching_trans {first second third : Disk}
    (one : (approaching root ground back).allows first second)
    (two : (approaching root ground back).allows second third) :
    (approaching root ground back).allows first third := by
  refine ⟨one.1.trans two.1, fun place => ?_⟩
  rcases two.2 place with same | ⟨free, isAround⟩
  · rw [same]
    exact one.2 place
  · rcases one.2 place with same | further
    · exact .inr ⟨same ▸ free, isAround⟩
    · exact .inr further

/-- Taking the lock leaves all others good, and what was free is then taken. -/
theorem lock_turns (shared : IsShared root ground back before) {answer : Except Failure FileKey}
    (locks : (inside root).lock before = (answer, after)) :
    IsShared root ground back after ∧
      (∀ key, before.keyAt? (lockPlace ground back) = some key →
        after.keyAt? (lockPlace ground back) = some key) ∧
      Turns (lockPlace ground back) before after none answer.toOption := by
  have comes := (@obeys_approach root ground back).keeps approaching_trans shared
  rcases approached : (inside root).approach before with ⟨failure | ⟨⟩, near⟩
  · rw [approached] at comes
    cases locks.symm.trans (lock_of_approach approached)
    exact ⟨comes.1, comes.2.1.key, .same comes.2.1.locked⟩
  rw [approached] at comes
  obtain ⟨sharedNear, spares, -⟩ := comes
  rcases opened : openForWriting (inside root).lockFile false false near with
    ⟨cause | handle, found⟩
  · obtain ⟨sharedFound, ⟨further, -⟩, -⟩ := openForWriting_lock sharedNear opened
    cases locks.symm.trans (lock_of_open approached opened)
    have whole := spares.trans further
    exact ⟨sharedFound, whole.key, .same whole.locked⟩
  · obtain ⟨sharedFound, ⟨further, -⟩, isKey⟩ := openForWriting_lock sharedNear opened
    have whole := spares.trans further
    rw [lock_of_take approached opened] at locks
    obtain ⟨sharedAfter, tree, turns⟩ := take_turns sharedFound (isKey handle rfl) locks
    refine ⟨sharedAfter, fun key held => ?_, turns.congr whole.locked.symm rfl rfl⟩
    rw [Disk.keyAt?, tree]
    exact whole.key key held

end Approach

end Workspace

end SnippetSandbox
