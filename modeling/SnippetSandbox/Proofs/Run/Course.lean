import SnippetSandbox.Proofs.Run.Passage

/-!
# From stages to whole runs

A run is ready before it begins, and then it goes through stages until one of them
stops or fails.  What each stage preserves therefore holds at the end of every
run, however many stages it has gone through.
-/

namespace SnippetSandbox.Run

open FileSystem

variable {Memory : Type}

def State.entering (state : State Memory) (stage : Stage) : State Memory :=
  { state with stages := state.stages ++ [stage] }

/-- The state in which a run with these surroundings begins. -/
def State.start (surroundings : Surroundings Memory) (config : Config) : State Memory :=
  { surroundings, config }

/-- What holds before a stage is handed on by it, and it decides what holds at the
end of the run when the stage is the last one. -/
structure Carries (sandbox : Sandbox Memory) (sources : List String)
    (invariant : Stage → State (Recorded Memory) → Prop)
    (final : Except Failure Outcome → State (Recorded Memory) → Prop) : Prop where
  advances : ∀ {stage before after next later}, invariant stage before →
    Passes sandbox sources (before.entering stage) after stage (.ok (.advance next later)) →
    invariant next after
  stops : ∀ {stage before after outcome}, invariant stage before →
    Passes sandbox sources (before.entering stage) after stage (.ok (.stop outcome)) →
    final (.ok outcome) after
  fails : ∀ {stage before after failure}, invariant stage before →
    Passes sandbox sources (before.entering stage) after stage (.error failure) →
    final (.error failure) after

namespace Carries

variable {sandbox : Sandbox Memory} {sources : List String}
variable {invariant : Stage → State (Recorded Memory) → Prop}
variable {final : Except Failure Outcome → State (Recorded Memory) → Prop}
variable {before after : State (Recorded Memory)} {answer : Except Failure Outcome}

/-- What holds when a stage begins decides what holds at the end of the run. -/
theorem runFrom (carries : Carries sandbox sources invariant final) {stage : Stage}
    (holds : invariant stage before)
    (done : sandbox.recorded.runFrom sources stage before = (answer, after)) :
    final answer after := by
  induction remaining : stage.remaining using Nat.strongRecOn generalizing stage before with
  | ind remaining ih =>
      rw [Sandbox.runFrom] at done
      rcases Effect.bind_done done with ⟨failure, entered, rfl⟩ | ⟨led, between, entered, done⟩
      · exact carries.fails holds (passes_step entered)
      · have passes : Passes sandbox sources (before.entering stage) between stage (.ok led) :=
          passes_step entered
        cases led with
        | advance next later =>
            exact ih next.remaining (remaining ▸ later) (carries.advances holds passes) done rfl
        | stop outcome =>
            cases done
            exact carries.stops holds passes

/-- The same for a whole run, which fails unready or begins with a new session. -/
theorem run (carries : Carries sandbox sources invariant final)
    (unready : ∀ {failed failure}, Adds before failed [] [] → failed.config = before.config →
      final (.error failure) failed)
    (ready : ∀ {begun : State (Recorded Memory)}, begun.exchanges = before.exchanges →
      begun.remarks = before.remarks → begun.config = before.config → begun.session = {} →
      begun.stages = [] → invariant .writing begun)
    (done : sandbox.recorded.run sources before = (answer, after)) : final answer after := by
  rw [Sandbox.run] at done
  rcases Effect.bind_done done with ⟨failure, prepared, rfl⟩ | ⟨_, between, prepared, done⟩
  · obtain ⟨adds, config⟩ := (quiet_onDisk _).states prepared
    exact unready adds config
  · obtain ⟨adds, config⟩ := (quiet_onDisk _).states prepared
    rw [bind_modify] at done
    refine carries.runFrom ?_ done
    refine ready ?_ ?_ config rfl rfl
    · exact adds.exchanges.trans (List.append_nil _)
    · exact adds.remarks.trans (List.append_nil _)

end Carries

end SnippetSandbox.Run
