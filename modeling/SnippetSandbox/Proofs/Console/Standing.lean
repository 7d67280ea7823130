import Mathlib.Logic.Function.Basic
import SnippetSandbox.Proofs.Console.Marks

/-!
# Two runs on one configuration

Two runs on one workspace with one configuration file go on in any order.  They keep each
other out of their stages, so one of them saves first, while the other one waits or has not
begun.  From then on the file holds what the first one has registered, until the second one
saves what it had loaded, with its own registered.
-/

namespace SnippetSandbox.Console

open FileSystem Workspace Run Analysis

/-- Somebody who runs files, with relative paths that start from a directory of its own. -/
structure Runner where
  setting : Setting
  files : List String
  current : Place

namespace Runner

def view (runner : Runner) (disk : Disk) : Disk :=
  { disk with current := runner.current }

/-- What is stored in its configuration file. -/
def stored (runner : Runner) (disk : Disk) : Except Failure Config :=
  Config.stored runner.setting.configFile (runner.view disk)

/-- Go on by one step. -/
def advance (runner : Runner) (progress : Progress) (disk : Disk) : Progress × Disk :=
  let (later, changed) := progress.next runner.setting runner.files (runner.view disk)
  (later, { changed with current := disk.current })

variable {root : String} {ground : Place} {back : List String} {runner : Runner}
variable {progress : Progress} {disk : Disk}

theorem turns_advance (absolute : Path.isAbsolute root = true)
    (inside : runner.setting.workspace = .inside root)
    (spares : runner.setting.machine.Spares root ground back)
    (shared : IsShared root ground back disk) :
    IsShared root ground back (runner.advance progress disk).2 ∧
      (∀ key, disk.keyAt? (lockPlace ground back) = some key →
        (runner.advance progress disk).2.keyAt? (lockPlace ground back) = some key) ∧
      Turns (lockPlace ground back) disk (runner.advance progress disk).2 progress.key?
        (runner.advance progress disk).1.key? := by
  obtain ⟨sharedAfter, kept, turns⟩ := @Progress.turns_next _ _ _ _ runner.files progress _ inside
    spares (shared.seenFrom absolute runner.current)
  exact ⟨sharedAfter.seenFrom absolute _, kept, turns.congr rfl rfl rfl⟩

theorem stored_of_saves {registered : Config × Bool} {changed : Disk} (current : Place)
    (saves : Saves runner.setting registered (runner.view disk) changed)
    (noDevice : ∀ kind, (runner.view changed).entryAt? runner.setting.configFile ≠
      .ok (.device kind)) :
    runner.stored { changed with current } =
      if registered.2 then .ok registered.1 else runner.stored disk := by
  rcases saves with ⟨unchanged, rfl⟩ | ⟨isChanged, saved⟩
  · rw [unchanged, if_neg (by simp)]
    rfl
  · have same : runner.view changed = changed := by
      have current : changed.current = runner.current := Config.current_of_save saved
      rw [view, ← current]
    rw [isChanged, if_pos rfl]
    rw [same] at noDevice
    refine Eq.trans ?_ (Config.stored_save saved noDevice)
    exact congrArg (Config.stored _) same

end Runner

/-- The disk, and how far each of two runs has come. -/
structure Pair where
  disk : Disk
  progress : Bool → Progress

namespace Pair

/-- Neither of them has begun. -/
def start (disk : Disk) : Pair :=
  ⟨disk, fun _ => .idle⟩

/-- One of them goes on. -/
def go (runners : Bool → Runner) (pair : Pair) (i : Bool) : Pair where
  disk := ((runners i).advance (pair.progress i) pair.disk).2
  progress := Function.update pair.progress i
    ((runners i).advance (pair.progress i) pair.disk).1

variable {runners : Bool → Runner} {pair : Pair} {i : Bool}

theorem go_self (pair : Pair) (i : Bool) : (pair.go runners i).progress i =
    ((runners i).advance (pair.progress i) pair.disk).1 :=
  Function.update_self ..

theorem go_other (pair : Pair) {i j : Bool} (other : j ≠ i) :
    (pair.go runners i).progress j = pair.progress j :=
  Function.update_of_ne other ..

/-- What is true at all times. -/
structure IsSound (root : String) (ground : Place) (back : List String) (pair : Pair) : Prop where
  shared : IsShared root ground back pair.disk
  agrees : ∀ i, (pair.progress i).Agrees
  exclusive : IsExclusive (lockPlace ground back) (fun i => (pair.progress i).key?) pair.disk

theorem IsSound.go {root : String} {ground : Place} {back : List String}
    (absolute : Path.isAbsolute root = true)
    (inside : (runners i).setting.workspace = .inside root)
    (spares : (runners i).setting.machine.Spares root ground back)
    (sound : pair.IsSound root ground back) : (pair.go runners i).IsSound root ground back := by
  obtain ⟨shared, kept, turns⟩ := @Runner.turns_advance _ _ _ _ (pair.progress i) _ absolute inside
    spares sound.shared
  refine ⟨shared, fun j => ?_, sound.exclusive.turns i kept ?_ fun j other => ?_⟩
  · by_cases here : j = i
    · subst here
      rw [pair.go_self]
      exact (Progress.marks_next (sound.agrees j)).2
    · rw [pair.go_other here]
      exact sound.agrees j
  · rw [pair.go_self]
    exact turns
  · rw [pair.go_other other]

end Pair

/-- What the configuration files of all hold, which are one. -/
def Stores (runners : Bool → Runner) (disk : Disk) (answer : Except Failure Config) : Prop :=
  ∀ i, (runners i).stored disk = answer

/-- What is taken for granted about one step: nothing but saving changes what is stored, the
configuration file is the same for both and no device, and no fault strikes while it is
loaded. -/
structure IsFaithful (runners : Bool → Runner) (pair : Pair) (i : Bool) : Prop where
  kept : (pair.progress i).isSave = false →
    ∀ j, (runners j).stored (pair.go runners i).disk = (runners j).stored pair.disk
  same : ∀ j, (runners j).stored (pair.go runners i).disk =
    (runners i).stored (pair.go runners i).disk
  noDevice : ∀ kind, ((runners i).view (pair.go runners i).disk).entryAt?
    (runners i).setting.configFile ≠ .ok (.device kind)
  calm : pair.progress i = .idle → pair.disk.faults = []

/-- Two runs go on in any order, with everything that they have passed, the latest first. -/
inductive History (runners : Bool → Runner) (disk : Disk) : Pair → List Pair → Prop
  | begun : History runners disk (.start disk) [.start disk]
  | goesOn {pair : Pair} {passed : List Pair} (i : Bool)
      (history : History runners disk pair passed) (faithful : IsFaithful runners pair i) :
      History runners disk (pair.go runners i) (pair.go runners i :: passed)

theorem History.mem {runners : Bool → Runner} {disk : Disk} {pair : Pair} {passed : List Pair}
    (history : History runners disk pair passed) : pair ∈ passed := by
  cases history with
  | begun => exact List.mem_singleton_self _
  | goesOn => exact List.mem_cons_self

section Standings

variable {runners : Bool → Runner} {workspace : Workspace} {begun : Except Failure Config}
variable {pair next : Pair} {passed : List Pair}

/-- The first of two runs had saved when the second one had not begun. -/
def IsLate (first : Bool) (passed : List Pair) : Prop :=
  ∃ between ∈ passed, (between.progress first).HasSaved ∧ between.progress (!first) = .idle

/-- The first of two runs had saved when the second one had not asked for the lock. -/
def IsFirst (first : Bool) (passed : List Pair) : Prop :=
  ∃ between ∈ passed, (between.progress first).HasSaved ∧ ¬ (between.progress (!first)).HasAsked

/-- The second run has loaded what the first one registered or what was stored before,
depending on when it began. -/
def HasLoaded (workspace : Workspace) (begun : Except Failure Config) (first : Bool)
    (passed : List Pair) (one two : Preparation) : Prop :=
  IsLate first passed ∧ two.config = (register workspace one.archive one.config).1 ∨
    ¬ IsLate first passed ∧ begun = .ok two.config

/-- How far two runs have come together, and what is stored then. -/
inductive Standing (runners : Bool → Runner) (workspace : Workspace)
    (begun : Except Failure Config) (pair : Pair) (passed : List Pair) : Prop
  | lost (i : Bool) (isLost : (pair.progress i).mark = .lost)
  | unsaved (stored : Stores runners pair.disk begun)
      (pending : ∀ i preparation, (pair.progress i).mark.pending? = some preparation →
        begun = .ok preparation.config)
      (nobody : ∀ between ∈ passed, ∀ i, ¬ (between.progress i).HasSaved)
  | once (first : Bool) {one : Preparation} (saved : (pair.progress first).mark = .saved one)
      (loaded : begun = .ok one.config)
      (stored : Stores runners pair.disk (.ok (register workspace one.archive one.config).1))
      (isFirst : IsFirst first passed) (unsaved : ¬ (pair.progress (!first)).HasSaved)
      (pending : ∀ two, (pair.progress (!first)).mark.pending? = some two →
        HasLoaded workspace begun first passed one two)
  | twice (first : Bool) {one two : Preparation} (saved : (pair.progress first).mark = .saved one)
      (loaded : begun = .ok one.config) (isFirst : IsFirst first passed)
      (savedToo : (pair.progress (!first)).mark = .saved two)
      (hasLoaded : HasLoaded workspace begun first passed one two)
      (stored : Stores runners pair.disk
        (.ok (if (register workspace two.archive two.config).2
          then (register workspace two.archive two.config).1
          else (register workspace one.archive one.config).1)))

theorem IsFirst.further {first : Bool} (isFirst : IsFirst first passed) (next : Pair) :
    IsFirst first (next :: passed) := by
  obtain ⟨between, isMember, rest⟩ := isFirst
  exact ⟨between, List.mem_cons_of_mem _ isMember, rest⟩

theorem isLate_cons {first : Bool} (notIdle : next.progress (!first) ≠ .idle) :
    IsLate first (next :: passed) ↔ IsLate first passed := by
  constructor
  · rintro ⟨between, isMember, saved, idle⟩
    rcases List.mem_cons.mp isMember with rfl | isMember
    · exact absurd idle notIdle
    · exact ⟨between, isMember, saved, idle⟩
  · rintro ⟨between, isMember, rest⟩
    exact ⟨between, List.mem_cons_of_mem _ isMember, rest⟩

theorem HasLoaded.further {first : Bool} {one two : Preparation}
    (hasLoaded : HasLoaded workspace begun first passed one two)
    (notIdle : next.progress (!first) ≠ .idle) :
    HasLoaded workspace begun first (next :: passed) one two := by
  rwa [HasLoaded, isLate_cons notIdle]

/-- Everything that a step of one of two runs can do. -/
inductive Moves (runners : Bool → Runner) (workspace : Workspace) (pair next : Pair) (i : Bool) :
    Prop
  | loses (isLost : (next.progress i).mark = .lost)
  | loads {preparation : Preparation} (idle : pair.progress i = .idle)
      (isLoaded : (next.progress i).mark = .loaded preparation)
      (loaded : (runners i).stored pair.disk = .ok preparation.config)
      (kept : ∀ j, (runners j).stored next.disk = (runners j).stored pair.disk)
  /-- It takes the lock or works behind it. -/
  | works {preparation : Preparation}
      (pending : (pair.progress i).mark.pending? = some preparation)
      (busy : (next.progress i).mark = .busy preparation)
      (kept : ∀ j, (runners j).stored next.disk = (runners j).stored pair.disk)
  | saves {preparation : Preparation} (busy : (pair.progress i).mark = .busy preparation)
      (isSaved : (next.progress i).mark = .saved preparation)
      (stores : Stores runners next.disk
        (if (register workspace preparation.archive preparation.config).2
          then .ok (register workspace preparation.archive preparation.config).1
          else (runners i).stored pair.disk))
  | rests {preparation : Preparation} (wasSaved : (pair.progress i).mark = .saved preparation)
      (isSaved : (next.progress i).mark = .saved preparation)
      (kept : ∀ j, (runners j).stored next.disk = (runners j).stored pair.disk)

theorem moves_go {i : Bool} (sameWorkspace : (runners i).setting.workspace = workspace)
    (agrees : (pair.progress i).Agrees) (faithful : IsFaithful runners pair i) :
    Moves runners workspace pair (pair.go runners i) i := by
  subst sameWorkspace
  have marks := (@Progress.marks_next (runners i).setting (runners i).files _
    ((runners i).view pair.disk) agrees).1
  have same : ((pair.progress i).next (runners i).setting (runners i).files
      ((runners i).view pair.disk)).1 = (pair.go runners i).progress i := (pair.go_self i).symm
  rw [same] at marks
  have kept := faithful.kept
  generalize before : (pair.progress i).mark = mark at marks
  generalize after : ((pair.go runners i).progress i).mark = later at marks
  generalize (pair.progress i).isSave = isSave at marks kept
  cases marks with
  | loses => exact .loses after
  | loads loaded =>
      have idle := Progress.eq_idle_of_mark before
      exact .loads idle after (loaded (faithful.calm idle)) (kept rfl)
  | locks | works => exact .works (by rw [before]; rfl) after (kept rfl)
  | saves saves =>
      refine .saves before after fun j => ?_
      rw [faithful.same j]
      exact Runner.stored_of_saves pair.disk.current saves faithful.noDevice
  | rests => exact .rests before after (kept rfl)

section Steps

variable {i : Bool} (moves : Moves runners workspace pair next i)
variable (others : ∀ j, j ≠ i → next.progress j = pair.progress j) (isPassed : pair ∈ passed)

include moves in
theorem Moves.of_saved {one : Preparation} (saved : (pair.progress i).mark = .saved one) :
    (next.progress i).mark = .lost ∨ (next.progress i).mark = .saved one ∧
      ∀ j, (runners j).stored next.disk = (runners j).stored pair.disk := by
  cases moves with
  | loses isLost => exact .inl isLost
  | loads idle =>
      rw [idle] at saved
      cases saved
  | works pending =>
      rw [saved] at pending
      cases pending
  | saves busy =>
      rw [saved] at busy
      cases busy
  | rests wasSaved isSaved kept =>
      rw [saved] at wasSaved
      cases wasSaved
      exact .inr ⟨isSaved, kept⟩

include moves in
theorem Moves.of_lost (isLost : (pair.progress i).mark = .lost) :
    (next.progress i).mark = .lost := by
  cases moves with
  | loses isLost => exact isLost
  | loads idle =>
      rw [idle] at isLost
      cases isLost
  | works pending =>
      rw [isLost] at pending
      cases pending
  | saves was | rests was =>
      rw [isLost] at was
      cases was

section Unsaved

variable {lock : Place} {preparation : Preparation}
variable (exclusive : IsExclusive lock (fun i => (pair.progress i).key?) pair.disk)
variable (stored : Stores runners pair.disk begun)
variable (pending : ∀ i preparation, (pair.progress i).mark.pending? = some preparation →
  begun = .ok preparation.config)
variable (nobody : ∀ between ∈ passed, ∀ i, ¬ (between.progress i).HasSaved)

include others isPassed exclusive stored pending nobody

/-- The first one that saves does so while the other one waits or has not begun. -/
theorem standing_of_first (busy : (pair.progress i).mark = .busy preparation)
    (isSaved : (next.progress i).mark = .saved preparation)
    (stores : Stores runners next.disk
      (if (register workspace preparation.archive preparation.config).2
        then .ok (register workspace preparation.archive preparation.config).1
        else (runners i).stored pair.disk)) :
    Standing runners workspace begun next (next :: passed) := by
  have loaded : begun = .ok preparation.config := pending i _ (by rw [busy]; rfl)
  have storesOne : Stores runners next.disk
      (.ok (register workspace preparation.archive preparation.config).1) := by
    intro j
    rw [stores j]
    split
    next => rfl
    next same =>
      have complete := register_unchanged.mp (Bool.eq_false_iff.mpr same)
      rw [register_eq_self complete, stored i, loaded]
  have apart : (!i) ≠ i := by simp
  have sameOther := others (!i) apart
  have unsaved : ¬ (next.progress (!i)).HasSaved := sameOther ▸ nobody pair isPassed _
  have once (waits : ¬ (pair.progress (!i)).HasAsked) :
      Standing runners workspace begun next (next :: passed) := by
    refine .once i isSaved loaded storesOne
      ⟨next, List.mem_cons_self, ⟨_, isSaved⟩, sameOther ▸ waits⟩ unsaved fun two isPending => ?_
    refine .inr ⟨?_, pending (!i) two (sameOther ▸ isPending)⟩
    rw [isLate_cons (Progress.ne_idle_of_pending isPending)]
    rintro ⟨between, isMember, saved, -⟩
    exact nobody between isMember i saved
  cases other : (pair.progress (!i)).mark with
  | idle => exact once fun asked => asked.1 other
  | loaded known => exact once fun asked => asked.2 known other
  | lost => exact .lost (!i) (sameOther ▸ other)
  | saved known => exact absurd ⟨known, other⟩ (nobody pair isPassed _)
  | busy known =>
      -- Both would have the lock.
      obtain ⟨key, holds⟩ := Progress.holds_of_busy busy
      obtain ⟨otherKey, holdsToo⟩ := Progress.holds_of_busy other
      exact nomatch ((exclusive.heldBy holds).others _ apart).symm.trans holdsToo

include moves

theorem Moves.standing_of_unsaved : Standing runners workspace begun next (next :: passed) := by
  have stays {known : Preparation} (isPending : (next.progress i).mark.pending? = some known)
      (loaded : begun = .ok known.config)
      (kept : ∀ j, (runners j).stored next.disk = (runners j).stored pair.disk) :
      Standing runners workspace begun next (next :: passed) := by
    refine .unsaved (fun j => (kept j).trans (stored j)) (fun j other isOther => ?_)
      (List.forall_mem_cons.mpr ⟨fun j => ?_, nobody⟩)
    all_goals by_cases here : j = i
    · subst here
      rw [isPending] at isOther
      cases isOther
      exact loaded
    · rw [others j here] at isOther
      exact pending j other isOther
    · subst here
      exact Progress.not_hasSaved_of_pending isPending
    · rw [others j here]
      exact nobody pair isPassed j
  cases moves with
  | loses isLost => exact .lost i isLost
  | loads idle isLoaded loaded kept =>
      exact stays (by rw [isLoaded]; rfl) ((stored i).symm.trans loaded) kept
  | works wasPending busy kept => exact stays (by rw [busy]; rfl) (pending i _ wasPending) kept
  | saves busy isSaved stores =>
      exact standing_of_first others isPassed exclusive stored pending nobody busy isSaved stores
  | rests wasSaved => exact absurd ⟨_, wasSaved⟩ (nobody pair isPassed i)

end Unsaved

section Saved

variable {first : Bool} {one : Preparation}
variable (saved : (pair.progress first).mark = .saved one) (loaded : begun = .ok one.config)
variable (isFirst : IsFirst first passed)

include moves others saved loaded isFirst

include isPassed in
theorem Moves.standing_of_once
    (stored : Stores runners pair.disk (.ok (register workspace one.archive one.config).1))
    (unsaved : ¬ (pair.progress (!first)).HasSaved)
    (pending : ∀ two, (pair.progress (!first)).mark.pending? = some two →
      HasLoaded workspace begun first passed one two) :
    Standing runners workspace begun next (next :: passed) := by
  by_cases here : i = first
  · subst here
    have sameOther := others (!i) (by simp)
    rcases moves.of_saved saved with isLost | ⟨isSaved, kept⟩
    · exact .lost i isLost
    · refine .once i isSaved loaded (fun j => (kept j).trans (stored j)) (isFirst.further next)
        (sameOther ▸ unsaved) fun two isPending => ?_
      exact (pending two (sameOther ▸ isPending)).further (Progress.ne_idle_of_pending isPending)
  obtain rfl : i = !first := by cases i <;> cases first <;> simp_all
  have sameFirst := others first (by simp)
  have stays {known : Preparation}
      (isPending : (next.progress (!first)).mark.pending? = some known)
      (hasLoaded : HasLoaded workspace begun first (next :: passed) one known)
      (kept : ∀ j, (runners j).stored next.disk = (runners j).stored pair.disk) :
      Standing runners workspace begun next (next :: passed) := by
    refine .once first (sameFirst ▸ saved) loaded (fun j => (kept j).trans (stored j))
      (isFirst.further next) (Progress.not_hasSaved_of_pending isPending) fun two isTwo => ?_
    rw [isPending] at isTwo
    cases isTwo
    exact hasLoaded
  cases moves with
  | loses isLost => exact .lost _ isLost
  | @loads two idle isLoaded holds kept =>
      have isPending : (next.progress (!first)).mark.pending? = some two := by rw [isLoaded]; rfl
      have late : IsLate first passed := ⟨pair, isPassed, ⟨one, saved⟩, idle⟩
      refine stays isPending (HasLoaded.further (.inl ⟨late, ?_⟩)
        (Progress.ne_idle_of_pending isPending)) kept
      exact Except.ok.inj (holds.symm.trans (stored _))
  | @works two wasPending busy kept =>
      have isPending : (next.progress (!first)).mark.pending? = some two := by rw [busy]; rfl
      exact stays isPending
        ((pending _ wasPending).further (Progress.ne_idle_of_pending isPending)) kept
  | @saves two busy isSaved stores =>
      have notIdle : next.progress (!first) ≠ .idle := by
        intro idle
        rw [idle] at isSaved
        cases isSaved
      refine .twice first (sameFirst ▸ saved) loaded (isFirst.further next) isSaved
        ((pending two (by rw [busy]; rfl)).further notIdle) fun j => ?_
      rw [stores j, stored]
      split <;> rfl
  | rests wasSaved => exact absurd ⟨_, wasSaved⟩ unsaved

theorem Moves.standing_of_twice {two : Preparation}
    (savedToo : (pair.progress (!first)).mark = .saved two)
    (hasLoaded : HasLoaded workspace begun first passed one two)
    (stored : Stores runners pair.disk
      (.ok (if (register workspace two.archive two.config).2
        then (register workspace two.archive two.config).1
        else (register workspace one.archive one.config).1))) :
    Standing runners workspace begun next (next :: passed) := by
  have stays (isSaved : (next.progress first).mark = .saved one)
      (isSavedToo : (next.progress (!first)).mark = .saved two)
      (kept : ∀ j, (runners j).stored next.disk = (runners j).stored pair.disk) :
      Standing runners workspace begun next (next :: passed) := by
    have notIdle : next.progress (!first) ≠ .idle := by
      intro idle
      rw [idle] at isSavedToo
      cases isSavedToo
    exact .twice first isSaved loaded (isFirst.further next) isSavedToo (hasLoaded.further notIdle)
      fun j => (kept j).trans (stored j)
  by_cases here : i = first
  · subst here
    rcases moves.of_saved saved with isLost | ⟨isSaved, kept⟩
    · exact .lost i isLost
    · exact stays isSaved (others (!i) (by simp) ▸ savedToo) kept
  · obtain rfl : i = !first := by cases i <;> cases first <;> simp_all
    rcases moves.of_saved savedToo with isLost | ⟨isSaved, kept⟩
    · exact .lost _ isLost
    · exact stays (others first (by simp) ▸ saved) isSaved kept

end Saved

include moves others isPassed

/-- However far two runs have come, a step of one of them leads on. -/
theorem Moves.standing {lock : Place}
    (exclusive : IsExclusive lock (fun i => (pair.progress i).key?) pair.disk)
    (standing : Standing runners workspace begun pair passed) :
    Standing runners workspace begun next (next :: passed) := by
  cases standing with
  | lost j isLost =>
      by_cases here : j = i
      · exact .lost j (here ▸ moves.of_lost (here ▸ isLost))
      · exact .lost j (others j here ▸ isLost)
  | unsaved stored pending nobody =>
      exact moves.standing_of_unsaved others isPassed exclusive stored pending nobody
  | once first saved loaded stored isFirst unsaved pending =>
      exact moves.standing_of_once others isPassed saved loaded isFirst stored unsaved pending
  | twice first saved loaded isFirst savedToo hasLoaded stored =>
      exact moves.standing_of_twice others saved loaded isFirst savedToo hasLoaded stored

end Steps

section Histories

variable {root : String} {ground : Place} {back : List String} {disk : Disk}

/-- What holds of two runs and of what is stored, however far they have come. -/
theorem History.standing (absolute : Path.isAbsolute root = true)
    (inside : ∀ i, (runners i).setting.workspace = .inside root)
    (spares : ∀ i, (runners i).setting.machine.Spares root ground back)
    (shared : IsShared root ground back disk) (free : disk.locked = [])
    (stored : Stores runners disk begun) (history : History runners disk pair passed) :
    pair.IsSound root ground back ∧ Standing runners (.inside root) begun pair passed := by
  induction history with
  | begun =>
      refine ⟨⟨shared, fun _ => trivial, .inl ⟨fun _ => rfl, free⟩⟩, .unsaved stored ?_ ?_⟩
      · rintro _ _ ⟨⟩
      · rintro between isMember i ⟨_, saved⟩
        rw [List.mem_singleton.mp isMember] at saved
        cases saved
  | @goesOn pair passed i history faithful ih =>
      obtain ⟨sound, standing⟩ := ih
      have moves := moves_go (inside i) (sound.agrees i) faithful
      exact ⟨sound.go absolute (inside i) (spares i),
        moves.standing (fun j other => pair.go_other other) history.mem sound.exclusive standing⟩

end Histories

end Standings

end SnippetSandbox.Console
