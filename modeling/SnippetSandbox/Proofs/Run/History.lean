import SnippetSandbox.Proofs.Run.Course

/-!
# Histories of a sandbox

A sandbox is used again and again: it runs sources, goes through single stages,
synchronizes, and in between anybody may change the disk, as a crash or another
program does.  What every stage and every synchronization preserves holds after
any such history.
-/

namespace SnippetSandbox.Run

open FileSystem

variable {Memory : Type}

/-- Something that happens to a sandbox. -/
inductive Episode
  | run (sources : List String)
  /-- A single stage, whatever was gone through before it. -/
  | step (sources : List String) (stage : Stage)
  | synchronize
  /-- Something else changes the disk. -/
  | disturbance (change : Disk → Disk)

/-- The state after an episode. -/
def Episode.play (sandbox : Sandbox Memory) (state : State Memory) : Episode → State Memory
  | .run sources => (sandbox.run sources state).2
  | .step sources stage => (sandbox.step sources stage state).2
  | .synchronize => (sandbox.synchronize state).2
  | .disturbance change =>
      { state with
        surroundings := { state.surroundings with disk := change state.surroundings.disk } }

namespace Sandbox

variable (sandbox : Sandbox Memory)

/-- The state after some episodes, one after another. -/
def play (episodes : List Episode) (state : State Memory) : State Memory :=
  episodes.foldl (Episode.play sandbox) state

theorem plain_play (episodes : List Episode) (state : State (Recorded Memory)) :
    (sandbox.recorded.play episodes state).plain = sandbox.play episodes state.plain := by
  induction episodes generalizing state with
  | nil => rfl
  | cons episode episodes ih =>
      have same : (Episode.play sandbox.recorded state episode).plain =
          Episode.play sandbox state.plain episode := by
        cases episode with
        | run sources => exact congrArg Prod.snd (sandbox.mirrors_run sources state).symm
        | step sources stage =>
            exact congrArg Prod.snd (sandbox.mirrors_step sources stage state).symm
        | synchronize => exact congrArg Prod.snd (sandbox.mirrors_synchronize state).symm
        | disturbance change => rfl
      exact (ih _).trans (congrArg (sandbox.play episodes) same)

/-- The exchanges of a history that begins in this state. -/
def exchangesOf (episodes : List Episode) (state : State Memory) : List Exchange :=
  (sandbox.recorded.play episodes state.recorded).exchanges

end Sandbox

/-- A property of states that no stage and no synchronization breaks.  It depends on
the record and the configuration alone. -/
structure Lasts (sandbox : Sandbox Memory) (property : State (Recorded Memory) → Prop) : Prop where
  same : ∀ {before after}, property before → after.exchanges = before.exchanges →
    after.config = before.config → property after
  passes : ∀ {sources stage before after answer}, property before →
    Passes sandbox sources before after stage answer → property after
  synchronizes : ∀ {before after answer}, property before →
    Synchronizes sandbox before after answer →
    after.config = (register sandbox.workspace sandbox.archive before.config).1 → property after

/-- A call on the compiler or on the executor, as a stage makes it with this configuration. -/
def Exchange.IsToolCall (sandbox : Sandbox Memory) (config : Config) : Exchange → Prop
  | .compile .. => True
  | .execute _ classpath options reply =>
      classpath = places sandbox config ∧ options = flags sandbox config ∧
        reply.before.pathExists sandbox.workspace.logFile = false
  | .save .. | .forget .. | .ingest .. => False

namespace Lasts

variable {sandbox : Sandbox Memory} {property : State (Recorded Memory) → Prop}

/-- Besides synchronizing, a stage calls on one tool at most and leaves the configuration as it
is. -/
theorem of_toolCalls
    (same : ∀ {before after}, property before → after.exchanges = before.exchanges →
      after.config = before.config → property after)
    (calls : ∀ {before after exchange}, property before →
      after.exchanges = before.exchanges ++ [exchange] →
      exchange.IsToolCall sandbox before.config → after.config = before.config → property after)
    (synchronizes : ∀ {before after answer}, property before →
      Synchronizes sandbox before after answer →
      after.config = (register sandbox.workspace sandbox.archive before.config).1 →
      property after) : Lasts sandbox property where
  same := same
  passes holds passes := by
    cases passes with
    | unwritten adds config | written adds config | pointless adds config
    | unlaunched adds config | located _ adds _ config =>
        exact same holds (adds.exchanges.trans (List.append_nil _)) config
    | uncompiled _ adds config | rejected _ adds config | compiled _ adds config =>
        exact calls holds adds.exchanges trivial config
    | unexecuted fresh _ adds config | failed fresh _ adds config
    | executed fresh _ adds config =>
        exact calls holds adds.exchanges ⟨rfl, rfl, fresh⟩ config
    | unsynchronized tries config | synchronized tries config =>
        exact synchronizes holds tries config
    | entryless _ unchanged | finished _ unchanged => exact unchanged ▸ holds
  synchronizes := synchronizes

theorem run (lasts : Lasts sandbox property) {sources : List String}
    {before after : State (Recorded Memory)} {answer : Except Failure Outcome}
    (holds : property before) (done : sandbox.recorded.run sources before = (answer, after)) :
    property after := by
  have enters {stage : Stage} {before after : State (Recorded Memory)}
      {answer : Except Failure (Step stage)} (holds : property before)
      (passes : Passes sandbox sources (before.entering stage) after stage answer) :
      property after := by
    have entering : property (before.entering stage) := lasts.same holds rfl rfl
    exact lasts.passes entering passes
  have carries : Carries sandbox sources (fun _ => property) (fun _ => property) :=
    ⟨enters, enters, enters⟩
  refine carries.run ?_ ?_ done
  · intro failed failure adds config
    exact lasts.same holds (adds.exchanges.trans (List.append_nil _)) config
  · intro begun exchanges _ config _ _
    exact lasts.same holds exchanges config

theorem play (lasts : Lasts sandbox property) (episodes : List Episode)
    {state : State (Recorded Memory)} (holds : property state) :
    property (sandbox.recorded.play episodes state) := by
  induction episodes generalizing state with
  | nil => exact holds
  | cons episode episodes ih =>
      refine ih ?_
      cases episode with
      | run sources => exact lasts.run holds rfl
      | step sources stage => exact lasts.passes holds (passes_step rfl)
      | synchronize =>
          rcases done : sandbox.recorded.synchronize state with ⟨answer, after⟩
          obtain ⟨tries, config, -⟩ := synchronizes_done done
          have left : Episode.play sandbox.recorded state .synchronize = after := by
            rw [Episode.play, done]
          rw [left]
          exact lasts.synchronizes holds tries config
      | disturbance change => exact lasts.same holds rfl rfl

end Lasts

end SnippetSandbox.Run
