import Mathlib.Algebra.Order.Floor.Div
import SnippetSandbox.Proofs.Supervision.Waiting

/-!
# How often a program is polled

No sleep of a watcher ends early, so the clock runs ahead of the number of its rounds, and the
deadline is passed after as many rounds as sleeps fit into the limit.  Each round polls before
it looks at the clock.  So a program that ends while the watcher sleeps is found to have ended,
however long the sleep was, and only one that is found running at the deadline is killed.
-/

namespace SnippetSandbox.Supervision

open FileSystem Time

section Counting

variable {clock : Clock} {limit : Span} {deadline : Nat}

theorem Clock.start_add_le (clock : Clock) (round : Nat) :
    clock.start + round * pollInterval ≤ clock.reading round := by
  induction round with
  | zero => simpa using clock.starts
  | succ round ih =>
      have sleeps := clock.sleeps round
      rw [Nat.succ_mul]
      omega

theorem Clock.monotone_reading (clock : Clock) : Monotone clock.reading :=
  monotone_nat_of_le_succ fun round => Nat.le_of_add_right_le (clock.sleeps round)

theorem Clock.deadline_eq (counted : clock.deadline? limit = some deadline) :
    deadline = clock.start + limit.nanoseconds := by
  simp only [deadline?] at counted
  split at counted
  · exact (Option.some.inj counted).symm
  · cases counted

/-- Fewer rounds come before the deadline than sleeps are needed to fill the limit. -/
theorem Clock.round_lt_ceilDiv (counted : clock.deadline? limit = some deadline) {round : Nat}
    (early : clock.reading round < deadline) : round < limit.nanoseconds ⌈/⌉ pollInterval := by
  have positive : 0 < pollInterval := by decide
  have slept := clock.start_add_le round
  rw [deadline_eq counted] at early
  rw [← not_le, ceilDiv_le_iff_le_smul positive, smul_eq_mul, Nat.mul_comm]
  omega

variable {poll : Nat → Except Cause (Option Ending)} {reap : Except Cause Unit} {watched : Watch}

theorem Waits.lastRound_le (counted : clock.deadline? limit = some deadline)
    (waits : Waits clock deadline poll reap 0 watched) :
    watched.lastRound ≤ limit.nanoseconds ⌈/⌉ pollInterval := by
  cases last : watched.lastRound with
  | zero => exact Nat.zero_le _
  | succ round =>
      have isBefore : round < watched.lastRound := by omega
      exact Clock.round_lt_ceilDiv counted (waits.pending round (Nat.zero_le _) isBefore).early

theorem Waits.count_poll (waits : Waits clock deadline poll reap 0 watched) :
    watched.deeds.count .poll = watched.lastRound + 1 := by
  obtain ⟨last, stops, deeds⟩ := waits.stops
  have noPoll : last.count .poll = 0 := by
    generalize watched.ending = found at stops
    cases stops <;> rfl
  rw [deeds, List.count_append, List.count_replicate_self, noPoll, Nat.sub_zero, Nat.add_zero]

/-- In the last round the poll fails, finds the end, or comes too late. -/
theorem Waits.last_cases (waits : Waits clock deadline poll reap 0 watched) :
    (∃ cause, poll watched.lastRound = .error cause ∧ watched.ending = .error cause ∧
      .kill ∉ watched.deeds) ∨
    (∃ ending, poll watched.lastRound = .ok (some ending) ∧
      watched.ending = .ok (some ending) ∧ .kill ∉ watched.deeds) ∨
    poll watched.lastRound = .ok none ∧ deadline ≤ clock.reading watched.lastRound ∧
      watched.deeds.count .kill = 1 ∧ watched.deeds.count .reap = 1 ∧
      watched.ending = reap.map fun _ => none := by
  obtain ⟨last, stops, deeds⟩ := waits.stops
  generalize answer : watched.ending = found at stops
  cases stops with
  | lost found => exact .inl ⟨_, found, rfl, by simp [deeds]⟩
  | ended found => exact .inr (.inl ⟨_, found, rfl, by simp [deeds]⟩)
  | expired running late =>
      refine .inr (.inr ⟨running, late, ?_, ?_, rfl⟩)
      · simp [deeds, List.count_replicate]
      · simp [deeds, List.count_replicate]

end Counting

/-- How a program fares while it is polled: when it ends of itself and how, if ever, when each
round's poll is made, and which polls fail.  A round sleeps behind the one before, polls, and
looks at the clock then. -/
structure Life (clock : Clock) where
  exit : Option (Nat × Ending)
  moment : Nat → Nat
  trouble : Nat → Option Cause
  starts : clock.start ≤ moment 0
  sleeps : ∀ round, clock.reading round + pollInterval ≤ moment (round + 1)
  looks : ∀ round, moment round ≤ clock.reading round

namespace Life

variable {clock : Clock} {limit : Span} {deadline round : Nat} {ending : Ending}
variable {reap : Except Cause Unit} (life : Life clock)

/-- The program has ended like this by the poll of a round. -/
def HasEnded (round : Nat) (ending : Ending) : Prop :=
  ∃ moment, life.exit = some (moment, ending) ∧ moment ≤ life.moment round

/-- What the poll of a round finds. -/
def poll (round : Nat) : Except Cause (Option Ending) :=
  match life.trouble round with
  | some cause => .error cause
  | none => .ok ((life.exit.filter fun exit => exit.1 ≤ life.moment round).map Prod.snd)

variable {life}

theorem poll_eq_error {cause : Cause} :
    life.poll round = .error cause ↔ life.trouble round = some cause := by
  rw [poll]
  cases life.trouble round <;> simp

theorem poll_eq_some :
    life.poll round = .ok (some ending) ↔
      life.trouble round = none ∧ life.HasEnded round ending := by
  rw [poll, HasEnded]
  cases life.trouble round with
  | some cause => simp
  | none => simp [and_comm]

theorem poll_eq_none :
    life.poll round = .ok none ↔
      life.trouble round = none ∧ ∀ ending, ¬ life.HasEnded round ending := by
  simp only [poll, HasEnded]
  cases life.trouble round with
  | some cause => simp
  | none =>
      cases life.exit with
      | none => simp
      | some exit =>
          obtain ⟨moment, ending⟩ := exit
          simp

theorem exists_pending (early : ∀ earlier < round, clock.reading earlier < deadline)
    (untroubled : ∀ earlier ≤ round, life.trouble earlier = none)
    (ended : life.HasEnded round ending) :
    ∃ first, life.poll first = .ok (some ending) ∧
      ∀ earlier < first, IsPending clock deadline life.poll earlier := by
  classical
  have found : ∃ round, life.HasEnded round ending := ⟨round, ended⟩
  have upTo : Nat.find found ≤ round := Nat.find_min' found ended
  refine ⟨Nat.find found, poll_eq_some.mpr ⟨untroubled _ upTo, Nat.find_spec found⟩, ?_⟩
  intro earlier isBefore
  have isEarly : earlier < round := Nat.lt_of_lt_of_le isBefore upTo
  refine ⟨poll_eq_none.mpr ⟨untroubled earlier isEarly.le, fun other hasEnded => ?_⟩,
    early earlier isEarly⟩
  -- A program ends only once, so another ending is the same one.
  obtain ⟨moment, isExit, -⟩ := ended
  obtain ⟨_, same, isPast⟩ := hasEnded
  cases isExit.symm.trans same
  exact Nat.find_min found isBefore ⟨moment, isExit, isPast⟩

/-- The end of a program is reported just when a poll comes behind it, no clock reading before
this poll is past the deadline, and no poll up to it fails. -/
theorem watch_poll_ended_iff :
    (watch clock deadline life.poll reap 0).ending = .ok (some ending) ↔
      ∃ round, life.HasEnded round ending ∧
        (∀ earlier < round, clock.reading earlier < deadline) ∧
        ∀ earlier ≤ round, life.trouble earlier = none := by
  rw [watch_ended_iff]
  constructor
  · rintro ⟨round, found, pending⟩
    obtain ⟨untroubled, ended⟩ := poll_eq_some.mp found
    refine ⟨round, ended, fun earlier isBefore => (pending earlier isBefore).early, ?_⟩
    intro earlier upTo
    rcases Nat.lt_or_eq_of_le upTo with isBefore | rfl
    · exact (poll_eq_none.mp (pending earlier isBefore).running).1
    · exact untroubled
  · rintro ⟨round, ended, early, untroubled⟩
    exact exists_pending early untroubled ended

/-- What comes of waiting for a program for so long. -/
structure IsAwaited (life : Life clock) (limit : Span) (deadline : Nat) (reap : Except Cause Unit)
    (watched : Watch) : Prop where
  /-- There is a poll in every round, and so there is one at least. -/
  polls : watched.deeds.count .poll = watched.lastRound + 1
  bounded : watched.deeds.count .poll ≤ limit.nanoseconds ⌈/⌉ pollInterval + 1
  /-- The end is reported just when a poll sees it, and no reading before is past the deadline. -/
  ended : ∀ ending, watched.ending = .ok (some ending) ↔
    ∃ round, life.HasEnded round ending ∧
      (∀ earlier < round, clock.reading earlier < deadline) ∧
      ∀ earlier ≤ round, life.trouble earlier = none
  /-- An end that has come when the watcher wakes up is reported, however late that is, if the
  deadline was not past when the watcher went to sleep. -/
  overslept : ∀ round ending, clock.reading round < deadline → life.HasEnded (round + 1) ending →
    (∀ earlier ≤ round + 1, life.trouble earlier = none) → watched.ending = .ok (some ending)
  /-- If no end is reported and no poll has failed, the program is killed and reaped once. -/
  expired : (∀ ending, watched.ending ≠ .ok (some ending)) →
    (∀ round ≤ watched.lastRound, life.trouble round = none) →
    watched.deeds.count .kill = 1 ∧ watched.deeds.count .reap = 1 ∧
      deadline ≤ clock.reading watched.lastRound ∧ watched.ending = reap.map fun _ => none
  /-- A failed poll is the last one, and the program is not killed. -/
  lost : ∀ cause, life.trouble watched.lastRound = some cause →
    .kill ∉ watched.deeds ∧ watched.ending = .error cause
  /-- A program that was killed is not said to have ended of itself. -/
  killed : .kill ∈ watched.deeds → ∀ ending, watched.ending ≠ .ok (some ending)

/-- A program is polled once at least and no more often than one poll behind as many sleeps as
fill the limit.  Its end is reported if a poll sees it in time, and otherwise it is killed. -/
theorem isAwaited_watch (life : Life clock) (reap : Except Cause Unit)
    (counted : clock.deadline? limit = some deadline) :
    life.IsAwaited limit deadline reap (watch clock deadline life.poll reap 0) := by
  have waits := waits_watch clock deadline life.poll reap 0
  have polls := waits.count_poll
  have ended (ending : Ending) := @watch_poll_ended_iff clock deadline ending reap life
  generalize watch clock deadline life.poll reap 0 = watched at waits polls ended
  have last := waits.last_cases
  refine
    { polls, ended
      bounded := polls ▸ Nat.succ_le_succ (waits.lastRound_le counted)
      overslept := ?_, expired := ?_, lost := ?_, killed := ?_ }
  · intro round ending early hasEnded untroubled
    refine (ended ending).mpr ⟨round + 1, hasEnded, fun earlier isBefore => ?_, untroubled⟩
    exact (clock.monotone_reading (Nat.le_of_lt_succ isBefore)).trans_lt early
  · intro unseen untroubled
    rcases last with ⟨cause, found, -⟩ | ⟨ending, -, answer, -⟩ | ⟨-, late, kills, reaps, answer⟩
    · have troubled := poll_eq_error.mp found
      rw [untroubled _ le_rfl] at troubled
      cases troubled
    · exact absurd answer (unseen ending)
    · exact ⟨kills, reaps, late, answer⟩
  · intro cause troubled
    have failed := poll_eq_error.mpr troubled
    rcases last with ⟨_, found, answer, spared⟩ | ⟨_, found, -⟩ | ⟨found, -⟩
    · cases found.symm.trans failed
      exact ⟨spared, answer⟩
    · cases found.symm.trans failed
    · cases found.symm.trans failed
  · intro isKilled ending
    rcases last with ⟨_, -, -, spared⟩ | ⟨_, -, -, spared⟩ | ⟨-, -, -, -, answer⟩
    · exact absurd isKilled spared
    · exact absurd isKilled spared
    · rw [answer]
      cases reap <;> nofun

end Life

/-- The clock of a machine on which every sleep takes five times as long as it should. -/
def sluggish : Clock where
  start := 0
  reading round := round * (5 * pollInterval)
  starts := Nat.zero_le _
  sleeps round := by
    rw [Nat.add_mul]
    omega

/-- A program that ends while the watcher sleeps, 30 milliseconds after its start. -/
def sleptThrough : Life sluggish where
  exit := some (30000000, .exited 3)
  moment := sluggish.reading
  trouble _ := none
  starts := Nat.zero_le _
  sleeps := sluggish.sleeps
  looks _ := le_rfl

/-- A program that ends behind its deadline, but before the watcher notices that, is not killed. -/
theorem isAwaited_sleptThrough :
    sluggish.deadline? (.ofMilliseconds 25) = some 25000000 ∧
      let watched := watch sluggish 25000000 sleptThrough.poll (.ok ()) 0
      sleptThrough.IsAwaited (.ofMilliseconds 25) 25000000 (.ok ()) watched ∧
        watched.ending = .ok (some (.exited 3)) := by
  have counted : sluggish.deadline? (.ofMilliseconds 25) = some 25000000 := by decide
  have awaited := Life.isAwaited_watch sleptThrough (.ok ()) counted
  refine ⟨counted, awaited, awaited.overslept 0 (.exited 3) (by decide) ?_ fun _ _ => rfl⟩
  exact ⟨30000000, rfl, by decide⟩

end SnippetSandbox.Supervision
