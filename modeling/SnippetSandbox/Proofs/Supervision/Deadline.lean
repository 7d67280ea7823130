import Mathlib
import SnippetSandbox.Config.Reader
import SnippetSandbox.Proofs.Supervision.Waiting

/-!
# Limits that the clock cannot count

A limit can be any number of seconds that fits into 64 bits, while the clock counts seconds in
63.  The deadline is computed when the program has already been started.  If the clock can
count it, the program is watched to its end or killed, and its group is killed in either case.
If it cannot, the run breaks off, and the program goes on with nobody to watch it.
-/

namespace SnippetSandbox.Supervision

open FileSystem Time

/-- The clock can count the moment at which so many more seconds will have gone by. -/
def Clock.CanCount (clock : Clock) (seconds : Nat) : Prop :=
  clock.start / Span.perSecond + seconds < secondLimit

instance (clock : Clock) (seconds : Nat) : Decidable (clock.CanCount seconds) :=
  inferInstanceAs (Decidable (_ < _))

/-- The moment at which so many seconds will have gone by. -/
def Clock.momentAfter (clock : Clock) (seconds : Nat) : Nat :=
  clock.start + (Span.ofSeconds seconds).nanoseconds

theorem Clock.seconds_momentAfter (clock : Clock) (seconds : Nat) :
    clock.momentAfter seconds / Span.perSecond = clock.start / Span.perSecond + seconds :=
  Nat.add_mul_div_right _ _ (by decide)

theorem Clock.deadline?_of_canCount {clock : Clock} {seconds : Nat}
    (counts : clock.CanCount seconds) :
    clock.deadline? (.ofSeconds seconds) = some (clock.momentAfter seconds) := by
  have fits : clock.momentAfter seconds / Span.perSecond < secondLimit := by
    rwa [seconds_momentAfter]
  exact if_pos fits

theorem Clock.deadline?_of_not_canCount {clock : Clock} {seconds : Nat}
    (overflows : ¬ clock.CanCount seconds) : clock.deadline? (.ofSeconds seconds) = none := by
  have beyond : ¬ clock.momentAfter seconds / Span.perSecond < secondLimit := by
    rwa [seconds_momentAfter]
  exact if_neg beyond

/-- A started program has been reaped, or its group has been killed. -/
def IsCleared (deeds : List Deed) : Prop :=
  .start ∈ deeds → .reap ∈ deeds ∨ .killGroup ∈ deeds

instance (deeds : List Deed) : Decidable (IsCleared deeds) :=
  inferInstanceAs (Decidable (_ → _))

/-- The run did not break off over its deadline, and no started program was left to itself. -/
structure Course.IsSafe (course : Course) : Prop where
  counted : course.result ≠ .error .clockOverflow
  cleared : IsCleared course.deeds

/-- How a started program is run for so many seconds. -/
inductive RunsFor (clock : Clock) (child : Child) (seconds : Nat) (course : Course) : Prop
  /-- The program is polled until it is found to have ended of itself. -/
  | ended {round : Nat} {ending : Ending} {finished : Finished} (counts : clock.CanCount seconds)
      (ends : child.EndsIn clock (clock.momentAfter seconds) round ending)
      (result : course.result = .ok finished) (same : finished.ending = some ending)
      (deeds : course.deeds = .start :: (List.replicate (round + 1) .poll ++ [.killGroup]))
  /-- The program is polled until it is found running at its deadline, and it is killed. -/
  | expired {round : Nat} {finished : Finished} (counts : clock.CanCount seconds)
      (overdue : child.IsOverdueIn clock (clock.momentAfter seconds) round)
      (result : course.result = .ok finished) (same : finished.ending = none)
      (deeds : course.deeds =
        .start :: (List.replicate (round + 1) .poll ++ [.kill, .reap] ++ [.killGroup]))
  /-- The program is left to itself, with all the processes that it has started. -/
  | abandoned (overflows : ¬ clock.CanCount seconds)
      (result : course.result = .error .clockOverflow) (deeds : course.deeds = [.start])
      (survivors : course.survivors = (child.progress ⟨0⟩).descendants)

/-- A program cannot be started, and nothing is done, or it is run for so many seconds. -/
inductive Runs (machine : Machine) (command : Command) (seconds : Nat) (disk : Disk)
    (course : Course) : Prop
  | refused {cause : Cause} (refused : machine.launch command disk = .error cause)
      (result : course.result =
        .error (.toolchain (.notStarted (reportedName command.program) cause)))
      (deeds : course.deeds = [])
  | started {child : Child} (launched : machine.launch command disk = .ok child)
      (runs : RunsFor machine.clock child seconds course)

theorem runsFor_of_launched {machine : Machine} {command : Command} {disk : Disk} {child : Child}
    (seconds : Nat) (launched : machine.launch command disk = .ok child) :
    RunsFor machine.clock child seconds
      (supervise machine command (.ofSeconds seconds) disk) := by
  by_cases counts : machine.clock.CanCount seconds
  · obtain ⟨deeds, -, -, results⟩ :=
      supervise_of_deadline launched (Clock.deadline?_of_canCount counts)
    rcases child.watched_cases machine.clock (machine.clock.momentAfter seconds) with
      ⟨ending, ends, found, polls⟩ | ⟨overdue, found, polls⟩
    · exact .ended counts ends (results _ found) rfl (polls ▸ deeds)
    · exact .expired counts overdue (results _ found) rfl (polls ▸ deeds)
  · have overflows := Clock.deadline?_of_not_canCount counts
    rw [supervise_of_overflow launched overflows]
    exact .abandoned counts rfl rfl rfl

/-- Whatever happens to a program, it is run in one of the listed ways. -/
theorem runs_supervise (machine : Machine) (command : Command) (seconds : Nat) (disk : Disk) :
    Runs machine command seconds disk (supervise machine command (.ofSeconds seconds) disk) := by
  cases launched : machine.launch command disk with
  | error cause =>
      rw [supervise_of_refused launched]
      exact .refused launched rfl rfl
  | ok child => exact .started launched (runsFor_of_launched seconds launched)

namespace Runs

variable {machine : Machine} {command : Command} {seconds : Nat} {disk : Disk} {course : Course}

theorem isSafe_iff (runs : Runs machine command seconds disk course) :
    course.IsSafe ↔ .start ∉ course.deeds ∨ machine.clock.CanCount seconds := by
  cases runs with
  | refused refused result deeds =>
      have unstarted : .start ∉ course.deeds := by simp [deeds]
      exact ⟨fun _ => .inl unstarted, fun _ =>
        ⟨by simp [result], fun started => absurd started unstarted⟩⟩
  | started launched runs =>
      cases runs with
      | ended counts ends result same deeds =>
          exact ⟨fun _ => .inr counts, fun _ => ⟨by simp [result], fun _ => .inr (by simp [deeds])⟩⟩
      | expired counts overdue result same deeds =>
          exact ⟨fun _ => .inr counts, fun _ => ⟨by simp [result], fun _ => .inr (by simp [deeds])⟩⟩
      | abandoned overflows result deeds survivors =>
          have started : .start ∈ course.deeds := by simp [deeds]
          exact ⟨fun safe => absurd result safe.counted, fun cases =>
            (cases.elim (absurd started) fun counts => absurd counts overflows)⟩

end Runs

/-- A program that is run for any number of seconds that fits into 64 bits is run in one of the
listed ways.  The run does not break off, and no started program is left to itself, just when
the clock can count the deadline or nothing was started. -/
theorem supervise_isSafe_iff (machine : Machine) (command : Command) (seconds : UInt64)
    (disk : Disk) :
    let course := supervise machine command (.ofSeconds seconds.toNat) disk
    Runs machine command seconds.toNat disk course ∧
      (course.IsSafe ↔ .start ∉ course.deeds ∨ machine.clock.CanCount seconds.toNat) :=
  have runs := runs_supervise machine command seconds.toNat disk
  ⟨runs, runs.isSafe_iff⟩

/-- A machine that has just been switched on, and on which every program runs for ever. -/
def endlessMachine : Machine where
  launch _ disk := .ok
    { ending := fun _ => none
      progress := fun _ => { disk, output := .empty, errors := .empty } }
  environment := []
  clock := .steady 0

/-- A stored limit of as many seconds as fit into 64 bits breaks off the run of a program that
has been started. -/
theorem largest_limit_abandons : ∃ config disk,
    Config.parse "\x7b\"compile_timeout_secs\": 18446744073709551615\x7d" = .ok config ∧
      let command := endlessMachine.command "javac" ["A.java"]
      let course := supervise endlessMachine command config.compileTimeout disk
      course.result = .error .clockOverflow ∧ ¬ IsCleared course.deeds := by
  let config : Config := { compileTimeoutSecs := 18446744073709551615 }
  let disk : Disk := { tree := .bare, current := [] }
  refine ⟨config, disk, by cbv, ?_⟩
  intro command course
  have launched : endlessMachine.launch command disk = .ok _ := rfl
  have overflows : ¬ endlessMachine.clock.CanCount config.compileTimeoutSecs.toNat := by decide
  have abandoned : course = _ :=
    supervise_of_overflow launched (Clock.deadline?_of_not_canCount overflows)
  rw [abandoned]
  exact ⟨rfl, (by decide : ¬ IsCleared [.start])⟩

end SnippetSandbox.Supervision
