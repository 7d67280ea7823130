import SnippetSandbox.Supervision.Bounded

/-!
# How long a program is waited for

A watcher polls a program in every round until a poll finds its end or fails, or until the
deadline has passed.  So the last round is the first one that is none of those in which the
program is found running before its deadline, and it alone decides what comes of the waiting.
-/

namespace SnippetSandbox.Supervision

open FileSystem Time

section Watching

variable {clock : Clock} {deadline : Nat} {poll : Nat → Except Cause (Option Ending)}
variable {reap : Except Cause Unit} {first round : Nat} {ending : Ending}

/-- What the waiting comes to in its last round, and what is done to the program after the
poll of this round. -/
inductive Stops (clock : Clock) (deadline : Nat) (poll : Nat → Except Cause (Option Ending))
    (reap : Except Cause Unit) (round : Nat) : Except Cause (Option Ending) → List Deed → Prop
  | lost {cause : Cause} (found : poll round = .error cause) :
      Stops clock deadline poll reap round (.error cause) []
  | ended {ending : Ending} (found : poll round = .ok (some ending)) :
      Stops clock deadline poll reap round (.ok (some ending)) []
  | expired (running : poll round = .ok none) (late : deadline ≤ clock.reading round) :
      Stops clock deadline poll reap round (reap.map fun _ => none) [.kill, .reap]

/-- In this round the program is found running before its deadline. -/
structure IsPending (clock : Clock) (deadline : Nat)
    (poll : Nat → Except Cause (Option Ending)) (round : Nat) : Prop where
  running : poll round = .ok none
  early : clock.reading round < deadline

theorem Stops.not_pending {found : Except Cause (Option Ending)} {deeds : List Deed}
    (stops : Stops clock deadline poll reap round found deeds) :
    ¬ IsPending clock deadline poll round := by
  rintro ⟨running, early⟩
  cases stops with
  | lost found => simp [running] at found
  | ended found => simp [running] at found
  | expired _ late => omega

/-- How a program is waited for from a round on. -/
structure Waits (clock : Clock) (deadline : Nat) (poll : Nat → Except Cause (Option Ending))
    (reap : Except Cause Unit) (first : Nat) (watched : Watch) : Prop where
  later : first ≤ watched.lastRound
  pending : ∀ round, first ≤ round → round < watched.lastRound →
    IsPending clock deadline poll round
  stops : ∃ last, Stops clock deadline poll reap watched.lastRound watched.ending last ∧
    watched.deeds = List.replicate (watched.lastRound + 1 - first) .poll ++ last

theorem Waits.of_stops {found : Except Cause (Option Ending)} {deeds : List Deed}
    (stops : Stops clock deadline poll reap round found deeds) :
    Waits clock deadline poll reap round ⟨.poll :: deeds, round, found⟩ where
  later := Nat.le_refl round
  pending _ isFrom isBefore := absurd isBefore (Nat.not_lt.mpr isFrom)
  stops := ⟨deeds, stops, by simp⟩

/-- A round in which the program is found running before its deadline comes in front of the
others. -/
theorem Waits.cons {watched : Watch} (pending : IsPending clock deadline poll round)
    (waits : Waits clock deadline poll reap (round + 1) watched) :
    Waits clock deadline poll reap round { watched with deeds := .poll :: watched.deeds } := by
  have later : round + 1 ≤ watched.lastRound := waits.later
  refine ⟨Nat.le_of_succ_le later, fun other isFrom isBefore => ?_, ?_⟩
  · rcases Nat.eq_or_lt_of_le isFrom with rfl | isLater
    · exact pending
    · exact waits.pending other isLater isBefore
  · obtain ⟨last, stops, deeds⟩ := waits.stops
    refine ⟨last, stops, ?_⟩
    have count : watched.lastRound + 1 - round = watched.lastRound + 1 - (round + 1) + 1 := by
      omega
    rw [deeds, count, List.replicate_succ, List.cons_append]

theorem waits_watch (clock : Clock) (deadline : Nat)
    (poll : Nat → Except Cause (Option Ending)) (reap : Except Cause Unit) (first : Nat) :
    Waits clock deadline poll reap first (watch clock deadline poll reap first) := by
  induction first using watch.induct clock deadline poll reap with
  | case1 round cause found =>
      rw [watch, found]
      exact .of_stops (.lost found)
  | case2 round ending found =>
      rw [watch, found]
      exact .of_stops (.ended found)
  | case3 round running early ih =>
      rw [watch, running]
      dsimp only
      rw [if_pos early]
      exact .cons ⟨running, early⟩ ih
  | case4 round running late =>
      rw [watch, running]
      dsimp only
      rw [if_neg late]
      exact .of_stops (.expired running (Nat.not_lt.mp late))

/-- The last round is the first one in which the program is not found running before its
deadline. -/
theorem Waits.lastRound_eq {watched : Watch}
    (waits : Waits clock deadline poll reap 0 watched)
    (before : ∀ earlier < round, IsPending clock deadline poll earlier)
    (isOver : ¬ IsPending clock deadline poll round) : watched.lastRound = round := by
  obtain ⟨last, stops, -⟩ := waits.stops
  rcases Nat.lt_trichotomy watched.lastRound round with isBefore | same | isBehind
  · exact absurd (before _ isBefore) stops.not_pending
  · exact same
  · exact absurd (waits.pending round (Nat.zero_le _) isBehind) isOver

/-- A program is found to have ended of itself just when some poll finds its end and all polls
before were made while it was running before its deadline. -/
theorem watch_ended_iff :
    (watch clock deadline poll reap 0).ending = .ok (some ending) ↔
      ∃ round, poll round = .ok (some ending) ∧
        ∀ earlier < round, IsPending clock deadline poll earlier := by
  have waits := waits_watch clock deadline poll reap 0
  obtain ⟨last, stops, -⟩ := waits.stops
  constructor
  · intro ended
    rw [ended] at stops
    refine ⟨_, ?_, fun earlier isBefore => waits.pending earlier (Nat.zero_le _) isBefore⟩
    generalize answer : (Except.ok (some ending) : Except Cause (Option Ending)) = found at stops
    cases stops with
    | lost found => cases answer
    | ended found => exact answer ▸ found
    | expired running late => cases reap <;> cases answer
  · rintro ⟨round, found, pending⟩
    have isOver : ¬ IsPending clock deadline poll round := by
      rintro ⟨running, -⟩
      simp [running] at found
    rw [waits.lastRound_eq pending isOver] at stops
    generalize (watch clock deadline poll reap 0).ending = answer at stops ⊢
    cases stops with
    | lost other => simp [found] at other
    | ended other => exact other.symm.trans found
    | expired running late => simp [found] at running

end Watching

section Supervising

variable {machine : Machine} {command : Command} {disk : Disk} {limit : Span} {child : Child}

def Child.poll (child : Child) (clock : Clock) (round : Nat) : Except Cause (Option Ending) :=
  .ok (child.ending (clock.elapsed round))

def Child.watched (child : Child) (clock : Clock) (deadline : Nat) : Watch :=
  watch clock deadline (child.poll clock) (.ok ()) 0

/-- In all rounds before this one the program is found running before its deadline. -/
def Child.RunsUntil (child : Child) (clock : Clock) (deadline round : Nat) : Prop :=
  ∀ earlier < round, child.ending (clock.elapsed earlier) = none ∧ clock.reading earlier < deadline

/-- In this round the program is found to have ended of itself. -/
structure Child.EndsIn (child : Child) (clock : Clock) (deadline round : Nat) (ending : Ending) :
    Prop where
  running : child.RunsUntil clock deadline round
  found : child.ending (clock.elapsed round) = some ending

/-- In this round the program is found running at its deadline. -/
structure Child.IsOverdueIn (child : Child) (clock : Clock) (deadline round : Nat) : Prop where
  running : child.RunsUntil clock deadline round
  found : child.ending (clock.elapsed round) = none
  late : deadline ≤ clock.reading round

theorem Child.isPending_iff {clock : Clock} {deadline round : Nat} :
    IsPending clock deadline (child.poll clock) round ↔
      child.ending (clock.elapsed round) = none ∧ clock.reading round < deadline := by
  constructor
  · rintro ⟨running, early⟩
    exact ⟨Except.ok.inj running, early⟩
  · rintro ⟨running, early⟩
    exact ⟨congrArg Except.ok running, early⟩

/-- A program that is watched ends of itself or is found running at its deadline. -/
theorem Child.watched_cases (child : Child) (clock : Clock) (deadline : Nat) :
    let watched := child.watched clock deadline
    let polls := List.replicate (watched.lastRound + 1) Deed.poll
    (∃ ending, child.EndsIn clock deadline watched.lastRound ending ∧
      watched.ending = .ok (some ending) ∧ watched.deeds = polls) ∨
    child.IsOverdueIn clock deadline watched.lastRound ∧ watched.ending = .ok none ∧
      watched.deeds = polls ++ [.kill, .reap] := by
  intro watched polls
  have waits : Waits clock deadline (child.poll clock) (.ok ()) 0 watched := waits_watch ..
  have running : child.RunsUntil clock deadline watched.lastRound := fun earlier isBefore =>
    isPending_iff.mp (waits.pending earlier (Nat.zero_le _) isBefore)
  obtain ⟨last, stops, deeds⟩ := waits.stops
  rw [Nat.sub_zero] at deeds
  generalize answer : watched.ending = found at stops
  cases stops with
  | lost found => cases found
  | @ended ending found =>
      exact .inl ⟨ending, ⟨running, Except.ok.inj found⟩, rfl, deeds.trans (List.append_nil _)⟩
  | expired found late => exact .inr ⟨⟨running, Except.ok.inj found, late⟩, rfl, deeds⟩

/-- The round in which a program is found to have ended is the last one. -/
theorem Child.EndsIn.lastRound_eq {clock : Clock} {deadline round : Nat} {ending : Ending}
    (ends : child.EndsIn clock deadline round ending) :
    (child.watched clock deadline).lastRound = round := by
  refine (waits_watch ..).lastRound_eq ?_ ?_
  · exact fun earlier isBefore => isPending_iff.mpr (ends.running earlier isBefore)
  · rintro ⟨running, -⟩
    have found := ends.found.symm.trans (Except.ok.inj running)
    cases found

/-- A watched program is found to have ended like this just when it does so in some round. -/
theorem Child.watched_ended_iff {clock : Clock} {deadline : Nat} {ending : Ending} :
    (child.watched clock deadline).ending = .ok (some ending) ↔
      ∃ round, child.EndsIn clock deadline round ending := by
  rw [watched, watch_ended_iff]
  constructor
  · rintro ⟨round, found, pending⟩
    exact ⟨round, fun earlier isBefore => isPending_iff.mp (pending earlier isBefore),
      Except.ok.inj found⟩
  · rintro ⟨round, running, found⟩
    exact ⟨round, congrArg Except.ok found, fun earlier isBefore =>
      isPending_iff.mpr (running earlier isBefore)⟩

/-- A program that cannot be started is a failure. -/
theorem supervise_of_refused {cause : Cause} (refused : machine.launch command disk = .error cause) :
    supervise machine command limit disk =
      { deeds := [], disk, survivors := []
        result := .error (.toolchain (.notStarted (reportedName command.program) cause)) } := by
  rw [supervise, refused]

/-- A program whose deadline cannot be counted is left to itself. -/
theorem supervise_of_overflow (launched : machine.launch command disk = .ok child)
    (overflows : machine.clock.deadline? limit = none) :
    supervise machine command limit disk =
      { deeds := [.start], disk := (child.progress ⟨0⟩).disk, result := .error .clockOverflow
        survivors := (child.progress ⟨0⟩).descendants } := by
  rw [supervise, launched]
  dsimp only
  rw [overflows]

/-- A program whose deadline can be counted is watched, and then its group is killed. -/
theorem supervise_of_deadline {deadline : Nat}
    (launched : machine.launch command disk = .ok child)
    (counted : machine.clock.deadline? limit = some deadline) :
    let watched := child.watched machine.clock deadline
    let progress := child.progress (machine.clock.elapsed watched.lastRound)
    let course := supervise machine command limit disk
    course.deeds = .start :: (watched.deeds ++ [.killGroup]) ∧ course.disk = progress.disk ∧
      course.survivors = progress.descendants.filter (fun process => !process.inGroup) ∧
      ∀ ending, watched.ending = .ok ending → course.result = .ok
        { ending
          output := Text.lossyText (progress.output ++ progress.laterOutput)
          errors := Text.lossyText (progress.errors ++ progress.laterErrors) } := by
  have watches : watch machine.clock deadline
      (fun round => .ok (child.ending (machine.clock.elapsed round))) (.ok ()) 0 =
        child.watched machine.clock deadline := rfl
  simp only [supervise, launched, counted, watches]
  exact ⟨trivial, trivial, trivial, fun ending found => by rw [found]⟩

end Supervising

end SnippetSandbox.Supervision
