import SnippetSandbox.Proofs.Kernel.Family
import SnippetSandbox.Proofs.Supervision.Waiting

/-!
# Descendants that outlive the group of a program

When a program has ended, or was killed at its deadline, its group is killed, and then its
outputs are read to their ends.  A process that has left the group is not killed.  If it still
holds an output, the reading waits for it.  No process does that if those that leave the group
have closed both outputs before.
-/

namespace SnippetSandbox.Supervision

open FileSystem Kernel Time

/-- What a process does at some moment. -/
structure Happening where
  moment : Nat
  number : Nat
  move : Move

/-- The system after something has happened. -/
def Happening.make (happening : Happening) (system : System) : System :=
  happening.move.make happening.number system

/-- What the processes of a program do, one after another. -/
abbrev Story := List Happening

namespace Story

/-- The system when all of it has happened. -/
def play (story : Story) (system : System) : System :=
  story.foldl (fun system happening => happening.make system) system

/-- Processes leave the group only when they hold none of the outputs. -/
def IsTidy : Story → System → Prop
  | [], _ => True
  | happening :: others, system =>
      happening.move.IsTidy happening.number system ∧ IsTidy others (happening.make system)

instance decidableIsTidy : (story : Story) → (system : System) → Decidable (story.IsTidy system)
  | [], _ => .isTrue trivial
  | happening :: others, system =>
      have := decidableIsTidy others (happening.make system)
      inferInstanceAs (Decidable (_ ∧ _))

/-- What has happened by some moment. -/
def upTo (story : Story) (moment : Span) : Story :=
  story.takeWhile fun happening => happening.moment ≤ moment.nanoseconds

/-- The processes of a program at some moment. -/
def systemAt (story : Story) (disk : Disk) (moment : Span) : System :=
  play (story.upTo moment) (Shell.initialSystem disk)

/-- The started program whose processes do all this, and which ends when its first process
does. -/
def child (story : Story) (disk : Disk) : Child where
  ending moment :=
    ((story.systemAt disk moment).process? Shell.firstProcess).bind Process.ending
  progress moment :=
    let system := story.systemAt disk moment
    { disk := system.disk
      output := .empty
      errors := .empty
      descendants := system.processes.filterMap (Shell.descendant? system) }

/-- A machine on which every program does all this. -/
def machine (story : Story) : Machine where
  launch _ disk := .ok (story.child disk)
  environment := []
  clock := .steady 0

variable {story : Story} {system : System} {disk : Disk} {moment : Span}

theorem keepsOutputs_play (keeps : system.KeepsOutputs) (tidy : story.IsTidy system) :
    (story.play system).KeepsOutputs := by
  induction story generalizing system with
  | nil => exact keeps
  | cons happening others ih => exact ih (Move.keepsOutputs keeps tidy.1) tidy.2

theorem IsTidy.upTo (tidy : story.IsTidy system) : (story.upTo moment).IsTidy system := by
  induction story generalizing system with
  | nil => exact trivial
  | cons happening others ih =>
      rw [Story.upTo, List.takeWhile_cons]
      split
      next => exact ⟨tidy.1, ih tidy.2⟩
      next => exact trivial

theorem keepsOutputs_initial (disk : Disk) : (Shell.initialSystem disk).KeepsOutputs := by
  intro number process isMember _ _
  obtain ⟨rfl, rfl⟩ := Prod.mk.inj (List.mem_singleton.mp isMember)
  rfl

/-- At any moment of a tidy story no process outside the group holds an output. -/
theorem keepsOutputs_systemAt (tidy : story.IsTidy (Shell.initialSystem disk)) :
    (story.systemAt disk moment).KeepsOutputs :=
  keepsOutputs_play (keepsOutputs_initial disk) tidy.upTo

end Story

/-- A process that still runs, but not in the group of the first one, holds an output. -/
def IsHeldOutside (system : System) : Prop :=
  ∃ number process, (number, process) ∈ system.processes ∧ number ≠ Shell.firstProcess ∧
    process.ending = none ∧ process.inGroup = false ∧ system.holdsOutputs process = true

/-- The process can still write to one of the outputs. -/
def Descendant.holdsAny (process : Descendant) : Bool :=
  process.holdsOutput || process.holdsErrors

theorem descendant?_eq_some_iff {system : System} {number : Nat} {process : Process}
    {descendant : Descendant} :
    Shell.descendant? system (number, process) = some descendant ↔
      number ≠ Shell.firstProcess ∧ process.ending = none ∧
        descendant =
          { inGroup := process.inGroup
            holdsOutput := Shell.holds system .output process
            holdsErrors := Shell.holds system .errors process } := by
  rw [Shell.descendant?]
  by_cases isFirst : number = Shell.firstProcess
  · simp [isFirst]
  · cases process.ending with
    | none => simp [isFirst, eq_comm]
    | some ending => simp

/-- The outputs are held outside the group just when a descendant outside it holds one. -/
theorem isHeldOutside_iff (system : System) : IsHeldOutside system ↔
    ∃ process ∈ (system.processes.filterMap (Shell.descendant? system)).filter
      (fun process => !process.inGroup), process.holdsAny = true := by
  constructor
  · rintro ⟨number, process, isMember, notFirst, runs, outside, holds⟩
    have seen : Shell.descendant? system (number, process) = some _ :=
      descendant?_eq_some_iff.mpr ⟨notFirst, runs, rfl⟩
    refine ⟨_, List.mem_filter.mpr ⟨List.mem_filterMap.mpr ⟨_, isMember, seen⟩, ?_⟩, holds⟩
    simp [outside]
  · rintro ⟨descendant, isMember, holds⟩
    obtain ⟨isDescendant, outside⟩ := List.mem_filter.mp isMember
    obtain ⟨⟨number, process⟩, isProcess, seen⟩ := List.mem_filterMap.mp isDescendant
    obtain ⟨notFirst, runs, rfl⟩ := descendant?_eq_some_iff.mp seen
    exact ⟨number, process, isProcess, notFirst, runs, by simpa using outside, holds⟩

theorem not_isHeldOutside {system : System} (keeps : system.KeepsOutputs) :
    ¬ IsHeldOutside system := by
  rintro ⟨number, process, isMember, -, runs, outside, holds⟩
  have inside := keeps number process isMember runs holds
  rw [inside] at outside
  cases outside

/-- Whenever a program ends or is killed at its deadline, the processes that survive the killing
of its group hold an output just when one of its processes holds an output outside the group.
None does if processes leave the group only when they have closed both outputs. -/
theorem survivors_hold_iff {story : Story} {machine : Machine} {command : Command} {disk : Disk}
    {limit : Span} {deadline : Nat} (launched : machine.launch command disk = .ok (story.child disk))
    (counted : machine.clock.deadline? limit = some deadline) :
    let course := supervise machine command limit disk
    .killGroup ∈ course.deeds ∧ ∃ round,
      ((∃ ending, (story.child disk).EndsIn machine.clock deadline round ending) ∨
        (story.child disk).IsOverdueIn machine.clock deadline round) ∧
      ((∃ process ∈ course.survivors, process.holdsAny = true) ↔
        IsHeldOutside (story.systemAt disk (machine.clock.elapsed round))) ∧
      (story.IsTidy (Shell.initialSystem disk) →
        ∀ process ∈ course.survivors, process.holdsAny = false) := by
  intro course
  obtain ⟨deeds, -, survivors, -⟩ := supervise_of_deadline launched counted
  let last := machine.clock.elapsed ((story.child disk).watched machine.clock deadline).lastRound
  refine ⟨deeds ▸ by simp, ((story.child disk).watched machine.clock deadline).lastRound, ?_, ?_⟩
  · rcases (story.child disk).watched_cases machine.clock deadline with
      ⟨ending, ends, -⟩ | ⟨overdue, -⟩
    · exact .inl ⟨ending, ends⟩
    · exact .inr overdue
  · have held := isHeldOutside_iff (story.systemAt disk last)
    refine ⟨survivors ▸ held.symm, fun tidy process isMember => ?_⟩
    have keeps : (story.systemAt disk last).KeepsOutputs := Story.keepsOutputs_systemAt tidy
    have nobody := not_isHeldOutside keeps
    rw [held] at nobody
    rw [Bool.eq_false_iff]
    exact fun holds => nobody ⟨process, survivors ▸ isMember, holds⟩

/-- A program that starts another process and ends, while the other one goes to a group of its
own and works on.  Before it goes there it closes these descriptors. -/
def leavesBehind (closed : List Nat) : Story :=
  [⟨1000000, Shell.firstProcess, .fork⟩] ++
    closed.map (fun descriptor => ⟨2000000, Shell.firstProcess + 1, .close descriptor⟩) ++
    [⟨3000000, Shell.firstProcess + 1, .regroup false⟩,
      ⟨5000000, Shell.firstProcess, .exit (.exited 0)⟩]

/-- A disk with nothing on it. -/
def emptyDisk : Disk := { tree := .bare, current := [] }

theorem deadline?_ten_seconds :
    (Clock.steady 0).deadline? (.ofSeconds 10) = some 10000000000 := by
  decide

/-- The run of such a program for at most ten seconds. -/
def leavingBehind (closed : List Nat) : Course :=
  let machine := (leavesBehind closed).machine
  supervise machine (machine.command "java" ["A"]) (.ofSeconds 10) emptyDisk

/-- The program is found to have ended when it is polled for the second time, and its group is
killed then. -/
theorem leavingBehind_done {closed : List Nat}
    (ends : ((leavesBehind closed).child emptyDisk).EndsIn (.steady 0) 10000000000 1 (.exited 0)) :
    (leavingBehind closed).result.map Finished.ending = .ok (some (.exited 0)) ∧
      .killGroup ∈ (leavingBehind closed).deeds ∧
      (leavingBehind closed).survivors =
        (((leavesBehind closed).child emptyDisk).progress ⟨pollInterval⟩).descendants.filter
          fun process => !process.inGroup := by
  have launched : (leavesBehind closed).machine.launch
      ((leavesBehind closed).machine.command "java" ["A"]) emptyDisk =
        .ok ((leavesBehind closed).child emptyDisk) := rfl
  obtain ⟨deeds, -, survivors, results⟩ := supervise_of_deadline launched deadline?_ten_seconds
  have ended := results _ (Child.watched_ended_iff.mpr ⟨1, ends⟩)
  have lastRound : (((leavesBehind closed).child emptyDisk).watched
      (leavesBehind closed).machine.clock 10000000000).lastRound = 1 := ends.lastRound_eq
  rw [lastRound] at survivors
  refine ⟨?_, ?_, survivors⟩
  · rw [leavingBehind, ended]
    rfl
  · rw [leavingBehind, deeds]
    simp

theorem endsIn_leavesBehind {closed : List Nat}
    (begins : ((leavesBehind closed).child emptyDisk).ending ⟨0⟩ = none)
    (ended : ((leavesBehind closed).child emptyDisk).ending ⟨pollInterval⟩ = some (.exited 0)) :
    ((leavesBehind closed).child emptyDisk).EndsIn (.steady 0) 10000000000 1 (.exited 0) where
  running earlier isBefore := by
    rw [Nat.lt_one_iff.mp isBefore]
    exact ⟨begins, by decide⟩
  found := ended

/-- A process that has closed both outputs may leave the group: it survives, and it holds
nothing. -/
theorem survivors_hold_iff_closed :
    (leavesBehind [1, 2]).IsTidy (Shell.initialSystem emptyDisk) ∧
      (leavingBehind [1, 2]).survivors = [⟨false, false, false⟩] ∧
      ∀ process ∈ (leavingBehind [1, 2]).survivors, process.holdsAny = false := by
  have tidy : (leavesBehind [1, 2]).IsTidy (Shell.initialSystem emptyDisk) := by decide +kernel
  have ends := @endsIn_leavesBehind [1, 2] (by decide +kernel) (by decide +kernel)
  have launched : (leavesBehind [1, 2]).machine.launch
      ((leavesBehind [1, 2]).machine.command "java" ["A"]) emptyDisk =
        .ok ((leavesBehind [1, 2]).child emptyDisk) := rfl
  obtain ⟨-, -, -, -, nobody⟩ := survivors_hold_iff launched deadline?_ten_seconds
  obtain ⟨-, -, survivors⟩ := leavingBehind_done ends
  exact ⟨tidy, survivors.trans (by decide +kernel), nobody tidy⟩

/-- A process that leaves the group with both outputs open survives and holds them, after the
program has ended in time and its group was killed. -/
theorem leavingBehind_holds :
    (leavingBehind []).result.map Finished.ending = .ok (some (.exited 0)) ∧
      .killGroup ∈ (leavingBehind []).deeds ∧
      (leavingBehind []).survivors = [⟨false, true, true⟩] := by
  have ends := @endsIn_leavesBehind [] (by decide +kernel) (by decide +kernel)
  obtain ⟨result, deeds, survivors⟩ := leavingBehind_done ends
  exact ⟨result, deeds, survivors.trans (by decide +kernel)⟩

end SnippetSandbox.Supervision
