import SnippetSandbox.Supervision.Child

/-!
# Waiting for a program

A started program is polled until it has ended or its deadline has passed.
Each round polls first, looks at the clock then, and sleeps last, so an end that
comes while the watcher sleeps is still noticed, even beyond the deadline.  A
program that is found running at its deadline is killed and reaped.
-/

namespace SnippetSandbox.Supervision

open FileSystem Time

/-- How long the watcher sleeps between two polls. -/
def pollInterval : Nat := (Span.ofMilliseconds 10).nanoseconds

/-- The clock as the watcher sees it: once when it begins, and once in each round.
A sleep never ends early. -/
structure Clock where
  start : Nat
  reading : Nat → Nat
  starts : start ≤ reading 0
  sleeps : ∀ round, reading round + pollInterval ≤ reading (round + 1)

/-- The clock of a machine that has been up for so long and never sleeps too long. -/
def Clock.steady (start : Nat) : Clock where
  start := start
  reading round := start + round * pollInterval
  starts := by omega
  sleeps round := by rw [Nat.add_mul]; omega

/-- How much time has gone by in a round. -/
def Clock.elapsed (clock : Clock) (round : Nat) : Span :=
  ⟨clock.reading round - clock.start⟩

/-- The first second that the clock cannot count. -/
def Clock.secondLimit : Nat := 2 ^ 63

/-- The moment at which so much time will have gone by, if the clock can count it. -/
def Clock.deadline? (clock : Clock) (limit : Span) : Option Nat :=
  let moment := clock.start + limit.nanoseconds
  if moment / Span.perSecond < Clock.secondLimit then some moment else none

/-- Something done to a program. -/
inductive Deed
  | start
  | poll
  | kill
  | reap
  | killGroup
  deriving DecidableEq, Repr

/-- What came of waiting for a program. -/
structure Watch where
  deeds : List Deed
  /-- The round in which the waiting was over. -/
  lastRound : Nat
  /-- How the program ended; nothing if it was killed for its deadline. -/
  ending : Except Cause (Option Ending)

/-- Wait for a program from this round on.  `poll` is what each round's poll finds,
`reap` what comes of reaping the killed program. -/
def watch (clock : Clock) (deadline : Nat) (poll : Nat → Except Cause (Option Ending))
    (reap : Except Cause Unit) (round : Nat) : Watch :=
  match poll round with
  | .error cause => ⟨[.poll], round, .error cause⟩
  | .ok (some ending) => ⟨[.poll], round, .ok (some ending)⟩
  | .ok none =>
      if clock.reading round < deadline then
        let later := watch clock deadline poll reap (round + 1)
        { later with deeds := .poll :: later.deeds }
      else ⟨[.poll, .kill, .reap], round, reap.map fun _ => none⟩
termination_by deadline - clock.reading round
decreasing_by
  have := clock.sleeps round
  have : 0 < pollInterval := by decide
  omega

end SnippetSandbox.Supervision
