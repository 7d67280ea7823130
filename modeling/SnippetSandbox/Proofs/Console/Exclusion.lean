import Mathlib.Logic.Function.Basic
import Mathlib.Tactic.ByContra
import SnippetSandbox.Proofs.Console.Client
import SnippetSandbox.Proofs.Workspace.Reset

/-!
# Commands that keep each other out

Any number of runs and resets are at work on one workspace, piece by piece, and each of them
may die at any time.  Whoever else is at work, be it a user, a tool that has outlived its run
or a program with the workspace in its hands, leaves the root where it is and the locks good.
Then the lock is never with two of them, and only who has it changes anything in the sandbox
directory.
-/

namespace SnippetSandbox.Console

open FileSystem Workspace

section Moves

variable {root : String} {ground : Place} {back : List String} {command : Step Transcript}
variable {client : Client root ground back command}

namespace Phase

/-- A client that has the lock file open can take the lock on it, and whatever is left of its
work keeps to its rule. -/
def Fits : Phase client → Disk → Prop
  | .preparing rest, _ => rest.KeepsTo (looking root ground back) fun _ => True
  | .approaching _ rest, _ => rest.KeepsTo (Workspace.approaching root ground back) fun _ => True
  | .taking _ handle, disk => disk.keyAt? (lockPlace ground back) = some handle.key
  | .working _ rest, _ => rest.KeepsTo (sharing root ground back) fun _ => True
  | _, _ => True

theorem Fits.kept {phase : Phase client} {before after : Disk} (fits : phase.Fits before)
    (kept : ∀ key, before.keyAt? (lockPlace ground back) = some key →
      after.keyAt? (lockPlace ground back) = some key) : phase.Fits after := by
  cases phase with
  | taking prepared handle => exact kept _ fits
  | _ => exact fits

/-- Everything that one piece of a client's work can do. -/
structure Moves (phase : Phase client) (before : Disk) (later : Phase client) (after : Disk) :
    Prop where
  shared : IsShared root ground back after
  fits : later.Fits after
  key : ∀ key, before.keyAt? (lockPlace ground back) = some key →
    after.keyAt? (lockPlace ground back) = some key
  /-- Without the lock it makes what is missing on the way to the lock. -/
  passes : phase.key? = none → ∀ place, after.tree.lookup place = before.tree.lookup place ∨
    before.tree.lookup place = none ∧ place <:+ lockPlace ground back
  turns : Turns (lockPlace ground back) before after phase.key? later.key?

theorem moves_of_same {phase later : Phase client} {before after : Disk}
    (shared : IsShared root ground back after) (fits : later.Fits after)
    (tree : after.tree = before.tree) (locked : after.locked = before.locked)
    (holds : later.key? = phase.key?) : Moves phase before later after where
  shared := shared
  fits := fits
  key key held := by rwa [Disk.keyAt?, tree]
  passes _ place := .inl (by rw [tree])
  turns := holds ▸ .same locked

theorem moves_taking {prepared : client.Prepared} {handle : Handle} {disk : Disk}
    (there : disk.keyAt? (lockPlace ground back) = some handle.key)
    (shared : IsShared root ground back disk) :
    Moves (.taking prepared handle : Phase client) disk (next (.taking prepared handle) disk).1
      (next (.taking prepared handle) disk).2 := by
  rw [next]
  rcases took : (inside root).take handle disk with ⟨failure | key, after⟩
  · obtain ⟨sharedAfter, tree, turns⟩ := take_turns shared there took
    exact
      { shared := sharedAfter
        fits := trivial
        key := fun key held => by rwa [Disk.keyAt?, tree]
        passes := fun _ place => .inl (by rw [tree])
        turns := turns }
  · obtain ⟨sharedAfter, tree, turns⟩ := take_turns shared there took
    exact
      { shared := sharedAfter
        fits := client.minds prepared
        key := fun key held => by rwa [Disk.keyAt?, tree]
        passes := fun _ place => .inl (by rw [tree])
        turns := turns }

theorem moves_next {phase : Phase client} {disk : Disk} (fits : phase.Fits disk)
    (shared : IsShared root ground back disk) :
    Moves phase disk (phase.next disk).1 (phase.next disk).2 := by
  cases phase with
  | preparing rest =>
      cases rest with
      | act piece goOn =>
          obtain ⟨holds, ⟨tree, locked⟩, later⟩ := Procedure.KeepsTo.step fits shared
          exact moves_of_same holds later tree locked rfl
      | done answer =>
          cases answer with
          | ok prepared => exact moves_of_same shared client.makesWay rfl rfl rfl
          | error refusal => exact moves_of_same shared trivial rfl rfl rfl
  | approaching prepared rest =>
      cases rest with
      | act piece goOn =>
          obtain ⟨holds, ⟨spares, adds⟩, later⟩ := Procedure.KeepsTo.step fits shared
          exact ⟨holds, later, spares.key, fun _ => adds, .same spares.locked⟩
      | done answer =>
          cases answer with
          | ok => exact moves_of_same shared trivial rfl rfl rfl
          | error failure => exact moves_of_same shared trivial rfl rfl rfl
  | opening prepared =>
      rw [next]
      rcases opened : openForWriting (inside root).lockFile false false disk with ⟨answer, after⟩
      obtain ⟨holds, ⟨spares, adds⟩, isKey⟩ := openForWriting_lock shared opened
      cases answer with
      | ok handle =>
          exact ⟨holds, isKey handle rfl, spares.key, fun _ => adds, .same spares.locked⟩
      | error cause =>
          exact ⟨holds, trivial, spares.key, fun _ => adds, .same spares.locked⟩
  | taking prepared handle => exact moves_taking fits shared
  | working key rest =>
      cases rest with
      | act piece goOn =>
          obtain ⟨holds, spares, later⟩ := Procedure.KeepsTo.step fits shared
          exact ⟨holds, later, spares.key, by rintro ⟨⟩, .same spares.locked⟩
      | done transcript =>
          exact ⟨shared.of_same rfl rfl, trivial, fun _ => id, by rintro ⟨⟩, .gives rfl⟩
  | ended answer => exact moves_of_same shared trivial rfl rfl rfl
  | dead => exact moves_of_same shared trivial rfl rfl rfl

/-- Go on by one piece, with relative paths that start from the client's directory. -/
def advance (phase : Phase client) (disk : Disk) : Phase client × Disk :=
  let (later, changed) := phase.next { disk with current := client.current }
  (later, { changed with current := disk.current })

theorem moves_advance (absolute : Path.isAbsolute root = true) {phase : Phase client}
    {disk : Disk} (fits : phase.Fits disk) (shared : IsShared root ground back disk) :
    Moves phase disk (phase.advance disk).1 (phase.advance disk).2 := by
  have seen : phase.Fits { disk with current := client.current } := fits.kept fun _ => id
  have moves := moves_next seen (shared.seenFrom absolute client.current)
  exact
    { shared := moves.shared.seenFrom absolute disk.current
      fits := moves.fits.kept fun _ => id
      key := moves.key
      passes := moves.passes
      turns := moves.turns.congr rfl rfl rfl }

/-- What the system does with the lock of a client that dies. -/
def drop (phase : Phase client) (disk : Disk) : Disk :=
  match phase.key? with
  | some key => unlock key disk
  | none => disk

theorem drop_tree (phase : Phase client) (disk : Disk) : (phase.drop disk).tree = disk.tree := by
  rw [drop]
  split <;> rfl

theorem drop_current (phase : Phase client) (disk : Disk) :
    (phase.drop disk).current = disk.current := by
  rw [drop]
  split <;> rfl

theorem turns_drop (phase : Phase client) (disk : Disk) :
    Turns (lockPlace ground back) disk (phase.drop disk) phase.key? none := by
  rw [drop]
  cases phase.key? with
  | some key => exact .gives rfl
  | none => exact .same rfl

theorem advance_taking (prepared : client.Prepared) (handle : Handle) (disk : Disk) :
    (handle.key ∉ disk.locked ∧
      (advance (.taking prepared handle : Phase client) disk).1.key? = some handle.key) ∨
    (∃ fault, disk.nextFault.1 = some fault ∧
      (advance (.taking prepared handle : Phase client) disk).1 =
        .ended (.error (.failed (if fault.cause = .wouldBlock
          then .workspaceBusy (inside root).lockFile
          else .fileSystem (inside root).lockFile fault.cause)))) ∨
    (disk.nextFault.1 = none ∧ handle.key ∈ disk.locked ∧
      (advance (.taking prepared handle : Phase client) disk).1 = busy) := by
  have faults :
      ({ disk with current := client.current } : Disk).nextFault.1 = disk.nextFault.1 := by
    rw [Disk.nextFault, Disk.nextFault]
    dsimp only
    split <;> rfl
  rw [advance, next, ← faults]
  rcases took : takeLock handle.key { disk with current := client.current } with ⟨answer, after⟩
  rcases takeLock_done took with ⟨rfl, isFree, -⟩ | ⟨fault, struck, rfl, -⟩ | ⟨calm, isHeld, rfl, -⟩
  · refine .inl ⟨isFree, ?_⟩
    rw [take, took]
    rfl
  · refine .inr (.inl ⟨fault, struck, ?_⟩)
    rw [take_of_error took]
  · refine .inr (.inr ⟨calm, isHeld, ?_⟩)
    rw [take_of_error took, if_pos rfl]
    rfl

end Phase

end Moves

section Crowds

variable {ι : Type} {root : String} {ground : Place} {back : List String}
variable {command : ι → Step Transcript}

/-- The disk, and how far each of several clients has come. -/
structure Crowd (clients : ∀ i, Client root ground back (command i)) where
  disk : Disk
  phase : ∀ i, Phase (clients i)

namespace Crowd

variable {clients : ∀ i, Client root ground back (command i)} {crowd later : Crowd clients}

/-- Nobody has begun. -/
def start (clients : ∀ i, Client root ground back (command i)) (disk : Disk) : Crowd clients :=
  ⟨disk, fun i => .preparing (clients i).prepare⟩

/-- The lock that each of the clients has. -/
def holder (crowd : Crowd clients) (i : ι) : Option FileKey :=
  (crowd.phase i).key?

/-- What is true at all times. -/
structure IsSound (crowd : Crowd clients) : Prop where
  shared : IsShared root ground back crowd.disk
  fits : ∀ i, (crowd.phase i).Fits crowd.disk
  exclusive : IsExclusive (lockPlace ground back) crowd.holder crowd.disk

variable [DecidableEq ι]

/-- One of the clients goes on. -/
def advance (crowd : Crowd clients) (i : ι) : Crowd clients where
  disk := ((crowd.phase i).advance crowd.disk).2
  phase := Function.update crowd.phase i ((crowd.phase i).advance crowd.disk).1

theorem advance_self (crowd : Crowd clients) (i : ι) :
    (crowd.advance i).phase i = ((crowd.phase i).advance crowd.disk).1 :=
  Function.update_self ..

theorem advance_other (crowd : Crowd clients) {i j : ι} (other : j ≠ i) :
    (crowd.advance i).phase j = crowd.phase j :=
  Function.update_of_ne other ..

/-- One of the clients dies. -/
def die (crowd : Crowd clients) (i : ι) : Crowd clients where
  disk := (crowd.phase i).drop crowd.disk
  phase := Function.update crowd.phase i .dead

theorem die_self (crowd : Crowd clients) (i : ι) : (crowd.die i).phase i = .dead :=
  Function.update_self ..

theorem die_other (crowd : Crowd clients) {i j : ι} (other : j ≠ i) :
    (crowd.die i).phase j = crowd.phase j :=
  Function.update_of_ne other ..

/-- What happens next. -/
inductive Happens : Crowd clients → Crowd clients → Prop
  | advance (crowd : Crowd clients) (i : ι) : Happens crowd (crowd.advance i)
  | die (crowd : Crowd clients) (i : ι) : Happens crowd (crowd.die i)
  | others (crowd : Crowd clients) {changed : Disk} (shared : IsShared root ground back changed)
      (spares : SparesLock ground back crowd.disk changed) :
      Happens crowd { crowd with disk := changed }

/-- What can have become of clients that began on a disk. -/
def IsReached (disk : Disk) : Crowd clients → Prop :=
  Relation.ReflTransGen Happens (start clients disk)

theorem IsSound.advance (absolute : Path.isAbsolute root = true) (sound : crowd.IsSound) (i : ι) :
    (crowd.advance i).IsSound := by
  have moves := Phase.moves_advance absolute (sound.fits i) sound.shared
  refine ⟨moves.shared, fun j => ?_, ?_⟩
  · by_cases here : j = i
    · subst here
      rw [crowd.advance_self]
      exact moves.fits
    · rw [crowd.advance_other here]
      exact (sound.fits j).kept moves.key
  · refine sound.exclusive.turns i moves.key ?_ fun j other => ?_
    · rw [holder, holder, crowd.advance_self]
      exact moves.turns
    · rw [holder, holder, crowd.advance_other other]

theorem IsSound.die (sound : crowd.IsSound) (i : ι) : (crowd.die i).IsSound := by
  have key (key : FileKey) (held : crowd.disk.keyAt? (lockPlace ground back) = some key) :
      (crowd.die i).disk.keyAt? (lockPlace ground back) = some key := by
    rwa [Disk.keyAt?, Crowd.die, (crowd.phase i).drop_tree]
  refine ⟨sound.shared.of_same ((crowd.phase i).drop_current _) ((crowd.phase i).drop_tree _),
    fun j => ?_, ?_⟩
  · by_cases here : j = i
    · subst here
      rw [crowd.die_self]
      trivial
    · rw [crowd.die_other here]
      exact (sound.fits j).kept key
  · refine sound.exclusive.turns i key ?_ fun j other => ?_
    · rw [holder, holder, crowd.die_self]
      exact (crowd.phase i).turns_drop crowd.disk
    · rw [holder, holder, crowd.die_other other]

/-- Whatever happens, everything stays sound. -/
theorem IsSound.happens (absolute : Path.isAbsolute root = true) (sound : crowd.IsSound)
    (happens : Happens crowd later) : later.IsSound := by
  cases happens with
  | advance i => exact sound.advance absolute i
  | die i => exact sound.die i
  | others shared spares =>
      exact ⟨shared, fun i => (sound.fits i).kept spares.key,
        sound.exclusive.stays spares.key spares.locked⟩

theorem isSound_of_isReached (absolute : Path.isAbsolute root = true) {disk : Disk}
    (shared : IsShared root ground back disk) (free : disk.locked = [])
    (reached : crowd.IsReached disk) : crowd.IsSound := by
  induction reached with
  | refl => exact ⟨shared, fun i => (clients i).looks, .inl ⟨fun _ => rfl, free⟩⟩
  | tail _ happens sound => exact sound.happens absolute happens

/-- A client has the lock. -/
def Holds (crowd : Crowd clients) (i : ι) : Prop :=
  ∃ key, crowd.holder i = some key

/-- The lock keeps the clients apart. -/
structure Excludes (crowd : Crowd clients) : Prop where
  alone : ∀ i j, crowd.Holds i → crowd.Holds j → i = j
  /-- The lock that somebody has is the one that everybody comes to. -/
  valid : ∀ i key, crowd.holder i = some key →
    crowd.disk.locked = [key] ∧ crowd.disk.keyAt? (lockPlace ground back) = some key
  guarded : ∀ i, ¬ crowd.Holds i → ∀ place, sandboxPlace ground back <:+ place →
    (crowd.advance i).disk.tree.lookup place = crowd.disk.tree.lookup place
  passes : ∀ i, ¬ crowd.Holds i → ∀ place,
    (crowd.advance i).disk.tree.lookup place = crowd.disk.tree.lookup place ∨
      crowd.disk.tree.lookup place = none ∧ place <:+ lockPlace ground back
  undisturbed : ∀ i j, crowd.Holds i → ¬ crowd.Holds j → ∀ place,
    (crowd.advance j).disk.tree.lookup place = crowd.disk.tree.lookup place
  refused : ∀ i j prepared handle, crowd.Holds i → crowd.phase j = .taking prepared handle →
    crowd.disk.nextFault.1 = none → (crowd.advance j).phase j = .busy
  admitted : (∀ i, ¬ crowd.Holds i) → ∀ j prepared handle,
    crowd.phase j = .taking prepared handle →
      ((∀ fault, crowd.disk.nextFault.1 = some fault → fault.cause ≠ .wouldBlock) →
        (crowd.advance j).phase j ≠ .busy) ∧
      (crowd.disk.nextFault.1 = none → (crowd.advance j).Holds j)
  released : ∀ i, crowd.Holds i → IsFree (crowd.die i).holder (crowd.die i).disk

theorem IsSound.passes (absolute : Path.isAbsolute root = true) (sound : crowd.IsSound) {i : ι}
    (free : ¬ crowd.Holds i) (place : Place) :
    (crowd.advance i).disk.tree.lookup place = crowd.disk.tree.lookup place ∨
      crowd.disk.tree.lookup place = none ∧ place <:+ lockPlace ground back := by
  refine (Phase.moves_advance absolute (sound.fits i) sound.shared).passes ?_ place
  rw [Option.eq_none_iff_forall_ne_some]
  exact fun key holds => free ⟨key, holds⟩

theorem IsSound.excludes (absolute : Path.isAbsolute root = true) (sound : crowd.IsSound) :
    crowd.Excludes where
  alone i j holds others := by
    obtain ⟨key, holds⟩ := holds
    obtain ⟨other, others⟩ := others
    by_contra different
    exact absurd ((sound.exclusive.heldBy others).others i different) (by simp [holds])
  valid i key holds :=
    ⟨(sound.exclusive.heldBy holds).locked, (sound.exclusive.heldBy holds).there⟩
  guarded i free place inside := by
    rcases sound.passes absolute free place with same | ⟨-, isOnTheWay⟩
    · exact same
    · exact absurd (inside.trans isOnTheWay) not_sandboxPlace_suffix
  passes i free place := sound.passes absolute free place
  undisturbed i j holds free place := by
    obtain ⟨key, holds⟩ := holds
    rcases sound.passes absolute free place with same | ⟨isMissing, isOnTheWay⟩
    · exact same
    · obtain ⟨entry, there, -⟩ := Option.bind_eq_some_iff.mp (sound.exclusive.heldBy holds).there
      by_cases atLock : place = lockPlace ground back
      · rw [atLock, there] at isMissing
        cases isMissing
      · rw [Tree.lookup_of_suffix there isOnTheWay atLock] at isMissing
        cases isMissing
  refused i j prepared handle holds atLock calm := by
    obtain ⟨key, holds⟩ := holds
    have held := sound.exclusive.heldBy holds
    have there := sound.fits j
    rw [atLock] at there
    obtain rfl : handle.key = key := Option.some.inj (there.symm.trans held.there)
    rw [crowd.advance_self, atLock]
    rcases Phase.advance_taking prepared handle crowd.disk with
      ⟨isFree, -⟩ | ⟨fault, struck, -⟩ | ⟨-, -, isBusy⟩
    · exact absurd (by simp [held.locked]) isFree
    · rw [calm] at struck
      cases struck
    · exact isBusy
  admitted free j prepared handle atLock := by
    have nobody : crowd.disk.locked = [] := by
      rcases sound.exclusive with isFree | ⟨i, key, held⟩
      · exact isFree.locked
      · exact absurd ⟨key, held.holds⟩ (free i)
    rw [Holds, holder, crowd.advance_self, atLock]
    rcases Phase.advance_taking prepared handle crowd.disk with
      ⟨-, takes⟩ | ⟨fault, struck, ends⟩ | ⟨-, isHeld, -⟩
    · refine ⟨fun _ isBusy => ?_, fun _ => ⟨_, takes⟩⟩
      rw [isBusy] at takes
      cases takes
    · refine ⟨fun other isBusy => ?_, fun calm => ?_⟩
      · rw [ends, if_neg (other fault struck)] at isBusy
        cases isBusy
      · rw [calm] at struck
        cases struck
    · rw [nobody] at isHeld
      cases isHeld
  released i holds := by
    obtain ⟨key, holds⟩ := holds
    refine (sound.exclusive.heldBy holds).released ?_ (fun j other => ?_) ?_
    · rw [holder, crowd.die_self]
      rfl
    · rw [holder, holder, crowd.die_other other]
    · rw [holder] at holds
      rw [Crowd.die, Phase.drop, holds]
      rfl

end Crowd

/-- **Processes that run and reset one workspace keep each other out.**  Each of them, when
left alone, does what its command does.  However many of them are at work, and die, and
whoever else minds the lock, only one has the lock at a time and only that one changes the
sandbox directory; who comes while it is held is refused and changes nothing; and who comes
while it is free is not refused.  Making ready and resetting a workspace minds the lock, with
the lock or without.  This is for an absolute root with one place outside its own sandbox
directory and for a lock file that is no link, and for tools that leave both alone. -/
theorem lock_excludes [DecidableEq ι] (absolute : Path.isAbsolute root = true)
    {settings : ι → Setting} {tasks : ι → Task}
    (inside : ∀ i, (settings i).workspace = .inside root)
    (spares : ∀ i, (settings i).machine.Spares root ground back)
    (wants : ∀ i, tasks i ≠ .options) :
    (∀ i place, ∃ client : Client root ground back ((tasks i).carryOut (settings i)),
      client.current = place) ∧
    (∀ i (client : Client root ground back ((tasks i).carryOut (settings i))) disk,
      Phase.Leads (.preparing client.prepare, disk)
        ((.ended ((tasks i).carryOut (settings i) disk).1 : Phase client),
          ((tasks i).carryOut (settings i) disk).2)) ∧
    (∀ (clients : ∀ i, Client root ground back ((tasks i).carryOut (settings i))) disk,
      IsShared root ground back disk → disk.locked = [] →
        ∀ crowd : Crowd clients, crowd.IsReached disk → crowd.Excludes) ∧
    (∀ seed, (sharing root ground back).Obeys ((Workspace.inside root).reset seed)) ∧
    ∀ workspace seed, (sharing root ground back).Obeys (Workspace.ensureReady workspace seed) := by
  refine ⟨fun i => exists_client_of_task (inside i) (spares i) (wants i), fun i client disk =>
    Phase.leads_command client disk, fun clients disk shared free crowd reached => ?_, obeys_reset,
    obeys_ensureReady⟩
  exact (crowd.isSound_of_isReached absolute shared free reached).excludes absolute

end Crowds

section Linked

open Supervision

/-- A machine whose tools do nothing and end well. -/
def idleMachine : Machine where
  launch _ disk := .ok
    { ending := fun _ => some (.exited 0)
      progress := fun _ => { disk, output := .empty, errors := .empty } }
  environment := []
  clock := .steady 0

def idleSetting : Setting where
  machine := idleMachine
  tools := { kitHome := none, searchPath := some "/bin", userHome := none }
  workspace := inside "/"
  seed := .directory "/kept"
  configFile := "/jitbox.json"

/-- A run and a reset, by what they are told apart. -/
def runOrReset : Bool → Task
  | true => .run ["/A.java"] false
  | false => .reset

theorem lock_excludes_linked :
    IsShared "/" [] [] linkedSandbox ∧ linkedSandbox.locked = [] ∧
      ∃ clients : ∀ i, Client "/" [] [] ((runOrReset i).carryOut idleSetting),
        ∀ crowd : Crowd clients, crowd.IsReached linkedSandbox → crowd.Excludes := by
  have spares : idleSetting.machine.Spares "/" [] [] := by
    intro command disk child started shared time
    cases started
    exact ⟨shared, rfl, fun _ => id⟩
  have shared : IsShared "/" [] [] linkedSandbox :=
    ⟨.of_entries (by decide), isAnchored_linkedSandbox, nofun⟩
  have absolute : Path.isAbsolute "/" = true := by decide
  obtain ⟨exist, -, excludes, -⟩ :=
    @lock_excludes Bool "/" [] [] _ absolute (fun _ => idleSetting) runOrReset (fun _ => rfl)
      (fun _ => spares) (by decide)
  let clients (i : Bool) : Client "/" [] [] ((runOrReset i).carryOut idleSetting) :=
    (exist i []).choose
  exact ⟨shared, rfl, clients, excludes clients linkedSandbox shared rfl⟩

end Linked

section Inside

theorem makeDirectories_root {disk : Disk} (noFaults : disk.faults = []) :
    makeDirectories "/" disk = (.ok (), disk) := by
  have found (purpose : Purpose) :
      disk.tree.find disk.current purpose "/" = .ok (.present [] .directory) := by
    refine Tree.find_absolute ["", ""] (by decide) ?_
    have void : Path.isVoid "" = true := by decide
    rw [walk_void void, walk_void void]
    exact walk_here disk.tree.lookup_root
  exact makeDirectories_of_present noFaults (by decide) (found .name) (found .content)

/-- The lock in the root directory is taken on the file that has been opened. -/
theorem lock_of_opened {disk opened : Disk} {handle : Handle} (noFaults : disk.faults = [])
    (opens : openForWriting (inside "/").lockFile false false disk = (.ok handle, opened))
    (calm : opened.faults = []) (isFree : handle.key ∉ opened.locked) :
    (inside "/").lock disk =
      (.ok handle.key, { opened with locked := handle.key :: opened.locked }) := by
  have parent : Path.parent? (inside "/").lockFile = some "/" := by decide
  have approached : (inside "/").approach disk = (.ok (), disk) := by
    rw [approach, parent]
    exact reportedFor_of_ok (makeDirectories_root noFaults)
  have took : takeLock handle.key opened =
      (.ok (), { opened with locked := handle.key :: opened.locked }) := by
    refine attempt_of_ok calm ?_
    rw [if_neg isFree]
  rw [lock_of_take approached opens, take, took]

/-- The lock is taken on a file that is missing, in the root directory or by way of a link. -/
theorem lock_of_absent {disk : Disk} {place : Place} {slash : Bool} (noFaults : disk.faults = [])
    (absent : disk.tree.find disk.current .newFile (inside "/").lockFile =
      .ok (.absent place slash))
    (isFree : .file disk.tree.nextIdentity ∉ disk.locked) :
    (inside "/").lock disk = (.ok (.file disk.tree.nextIdentity),
      { disk with
        tree := disk.tree.create place ByteArray.empty false
        locked := .file disk.tree.nextIdentity :: disk.locked }) := by
  have opened : openForWriting (inside "/").lockFile false false disk =
      (.ok (.file place disk.tree.nextIdentity false),
        { disk with tree := disk.tree.create place ByteArray.empty false }) := by
    refine attempt_of_ok noFaults ?_
    rw [absent]
  exact lock_of_opened noFaults opened noFaults isFree

/-- A disk whose lock file is a link to a file in the sandbox directory, and what becomes of it
when the lock is taken and the workspace is reset: the file is removed, then both directories
are made. -/
def lockInside : Disk :=
  { tree := ⟨[("sandbox", .directory []), ("sandbox.lock", .link "/sandbox/held.lock")], 0⟩
    current := [] }

def heldInside : Disk :=
  { lockInside with
    tree := lockInside.tree.create ["held.lock", "sandbox"] ByteArray.empty false
    locked := [.file 0] }

def lostInside : Disk :=
  { heldInside with tree := heldInside.tree.clear ["held.lock", "sandbox"] }

def sownInside : Disk :=
  { heldInside with tree := lostInside.tree.put ["sources", "sandbox"] .directory }

def resetInside : Disk :=
  { heldInside with tree := sownInside.tree.put ["classes", "sandbox"] .directory }

theorem reset_heldInside : (inside "/").reset .none heldInside = (.ok (), resetInside) := by
  have isDirectory : heldInside.find (inside "/").sandboxDir =
      .ok (.present ["sandbox"] .directory) :=
    Tree.find_absolute ["", "sandbox"] (by decide) (by cbv)
  have present : SnippetSandbox.Task.ask (·.pathExists (inside "/").sandboxDir) heldInside =
      (.ok true, heldInside) := by
    rw [SnippetSandbox.Task.ask, Disk.pathExists_iff.mpr ⟨_, _, isDirectory⟩]
  have read : readDirectory (inside "/").sandboxDir heldInside =
      (.ok ["held.lock"], heldInside) := by
    have listed : heldInside.tree.names ["sandbox"] = ["held.lock"] :=
      List.mergeSort_singleton "held.lock"
    refine attempt_of_ok rfl ?_
    rw [isDirectory, ← listed]
  have found : heldInside.find (Path.join (inside "/").sandboxDir "held.lock") =
      .ok (.present ["held.lock", "sandbox"] (.file 0 ByteArray.empty false)) :=
    Tree.find_absolute ["", "sandbox", "held.lock"] (by decide) (by cbv)
  have asked : SnippetSandbox.Task.ask
      (·.isDirectory (Path.join (inside "/").sandboxDir "held.lock")) heldInside =
        (.ok false, heldInside) := by
    rw [SnippetSandbox.Task.ask, Disk.isDirectory, Disk.entryAt?, found]
  have removed : removeFile (Path.join (inside "/").sandboxDir "held.lock") heldInside =
      (.ok (), lostInside) := by
    have named : heldInside.findName (Path.join (inside "/").sandboxDir "held.lock") =
        .ok (.present ["held.lock", "sandbox"] (.file 0 ByteArray.empty false)) :=
      Tree.find_absolute ["", "sandbox", "held.lock"] (by decide) (by cbv)
    refine attempt_of_ok rfl ?_
    rw [named]
    rfl
  have emptied : emptyDirectory (inside "/").sandboxDir heldInside = (.ok (), lostInside) := by
    rw [emptyDirectory, Effect.bind_of_ok (reportedFor_of_ok read)]
    refine Effect.forM_singleton ?_
    rw [Effect.bind_of_ok asked, if_neg (by simp)]
    exact reportedFor_of_ok removed
  have missing : lostInside.pathExists (inside "/").sourceDir = false := by
    have absent : lostInside.find (inside "/").sourceDir =
        .ok (.absent ["sources", "sandbox"] false) :=
      Tree.find_absolute ["", "sandbox", "sources"] (by decide) (by cbv)
    rw [Disk.pathExists, Disk.entryAt?, absent]
  have makes : makeDirectories (inside "/").sourceDir lostInside = (.ok (), sownInside) :=
    makeDirectoriesUp_of_absent _ rfl (by decide)
      (Tree.find_absolute ["", "sandbox", "sources"] (by decide) (by cbv))
  have completes : makeDirectories (inside "/").classDir sownInside = (.ok (), resetInside) :=
    makeDirectoriesUp_of_absent _ rfl (by decide)
      (Tree.find_absolute ["", "sandbox", "classes"] (by decide) (by cbv))
  obtain ⟨fresh, ready⟩ : ∃ fresh,
      (inside "/").ensureReady .none lostInside = (.ok fresh, resetInside) :=
    ensureReady_of_steps missing makes rfl completes
  rw [reset, Effect.bind_of_ok present, if_pos rfl, Effect.bind_of_ok emptied]
  exact (Effect.bind_of_ok ready).trans rfl

/-- The lock that is held when the workspace is reset does not keep the next one out. -/
theorem reset_frees_held_lock : ∃ first second begun reset ended,
    (inside "/").lock lockInside = (.ok first, begun) ∧
      (inside "/").reset .none begun = (.ok (), reset) ∧
      (inside "/").lock reset = (.ok second, ended) ∧
      ended.locked = [second, first] ∧ second ≠ first := by
  have missing : lockInside.tree.find lockInside.current .newFile (inside "/").lockFile =
      .ok (.absent ["held.lock", "sandbox"] false) :=
    Tree.find_absolute ["", "sandbox.lock"] (by decide) (by cbv)
  have again : resetInside.tree.find resetInside.current .newFile (inside "/").lockFile =
      .ok (.absent ["held.lock", "sandbox"] false) :=
    Tree.find_absolute ["", "sandbox.lock"] (by decide) (by cbv)
  have takes : (inside "/").lock lockInside = (.ok (.file 0), heldInside) :=
    lock_of_absent rfl missing (by decide)
  have identity : resetInside.tree.nextIdentity = 1 := rfl
  have locked : resetInside.locked = [.file 0] := rfl
  have takesAgain := lock_of_absent rfl again (by rw [identity, locked]; decide)
  rw [identity, locked] at takesAgain
  exact ⟨_, _, _, _, _, takes, reset_heldInside, takesAgain, rfl, by decide⟩

end Inside

end SnippetSandbox.Console
