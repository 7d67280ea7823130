import SnippetSandbox.Shell.Launch

/-!
# Who holds the outputs of a program

A started program and the processes that come from it get the two outputs from one another:
a process that is started holds what the one holds that has started it, and is in the same
group.  Closing a descriptor, ending and forgetting never give a process anything.  So only a
process that leaves the group while it holds an output can hold one outside the group.
-/

namespace SnippetSandbox.Kernel

open FileSystem Supervision

section Lists

variable {Value : Type} {key number : Nat} {value : Value} {list : List (Nat × Value)}

/-- Changing the value of a key touches nothing but the value that is found for it. -/
theorem mem_change {with' : Value → Value} (isMember : (number, value) ∈ change key with' list) :
    (number, value) ∈ list ∨
      number = key ∧ ∃ former, list.lookup key = some former ∧ value = with' former := by
  induction list with
  | nil => simp [change] at isMember
  | cons pair others ih =>
      obtain ⟨found, first⟩ := pair
      rw [change] at isMember
      split at isMember
      next same =>
        subst same
        rcases List.mem_cons.mp isMember with isFirst | isOther
        · obtain ⟨rfl, rfl⟩ := Prod.mk.inj isFirst
          exact .inr ⟨rfl, first, List.lookup_cons_self, rfl⟩
        · exact .inl (List.mem_cons_of_mem _ isOther)
      next other =>
        rcases List.mem_cons.mp isMember with isFirst | isOther
        · exact .inl (isFirst ▸ List.mem_cons_self)
        · rcases ih isOther with isOld | ⟨same, former, isFound, changed⟩
          · exact .inl (List.mem_cons_of_mem _ isOld)
          · refine .inr ⟨same, former, ?_, changed⟩
            rw [List.lookup_cons, beq_eq_false_iff_ne.mpr (Ne.symm other)]
            exact isFound

theorem mem_of_lookup (found : list.lookup key = some value) : (key, value) ∈ list := by
  induction list with
  | nil => cases found
  | cons pair others ih =>
      obtain ⟨first, firstValue⟩ := pair
      rw [List.lookup_cons] at found
      split at found
      next same =>
        cases found
        rw [beq_iff_eq.mp same]
        exact List.mem_cons_self
      next => exact List.mem_cons_of_mem _ (ih found)

/-- What is found among the pairs of other keys is found among all. -/
theorem lookup_of_filter (found : (list.filter (·.1 ≠ key)).lookup number = some value) :
    list.lookup number = some value := by
  induction list with
  | nil => exact found
  | cons pair others ih =>
      obtain ⟨first, firstValue⟩ := pair
      by_cases isKey : first = key
      · rw [List.filter_cons_of_neg (by simpa using isKey)] at found
        have other : number ≠ first := by
          rintro rfl
          have kept := (List.mem_filter.mp (mem_of_lookup found)).2
          simp [isKey] at kept
        rw [List.lookup_cons, beq_eq_false_iff_ne.mpr other]
        exact ih found
      · rw [List.filter_cons_of_pos (by simpa using isKey), List.lookup_cons] at found
        rw [List.lookup_cons]
        cases same : number == first with
        | true => rwa [same] at found
        | false =>
            rw [same] at found
            exact ih found

end Lists

namespace System

/-- Nobody has gained anything: a process that still runs is in its former group, with no other
descriptors, and a descriptor that leads to an open file led there before. -/
structure Narrows (before after : System) : Prop where
  processes : ∀ {number process}, (number, process) ∈ after.processes → process.ending = none →
    ∃ former, (number, former) ∈ before.processes ∧ former.ending = none ∧
      former.inGroup = process.inGroup ∧ process.descriptors ⊆ former.descriptors
  openFiles : ∀ {number openFile}, after.openFiles.lookup number = some openFile →
    before.openFiles.lookup number = some openFile

namespace Narrows

variable {first second third system : System} {number : Nat}

theorem refl (system : System) : Narrows system system where
  processes isMember runs := ⟨_, isMember, runs, rfl, List.Subset.refl _⟩
  openFiles := id

theorem trans (one : Narrows first second) (two : Narrows second third) : Narrows first third where
  processes isMember runs := by
    obtain ⟨between, wasMember, ran, sameGroup, fewer⟩ := two.processes isMember runs
    obtain ⟨former, hadBeen, hadRun, group, least⟩ := one.processes wasMember ran
    exact ⟨former, hadBeen, hadRun, group.trans sameGroup, List.Subset.trans fewer least⟩
  openFiles found := one.openFiles (two.openFiles found)

/-- A process that changes only in what others do not see of it, or that loses something. -/
theorem changeProcess {with' : Process → Process}
    (loses : ∀ process, (with' process).ending = none → process.ending = none ∧
      process.inGroup = (with' process).inGroup ∧
      (with' process).descriptors ⊆ process.descriptors) :
    Narrows system (system.changeProcess number with') where
  processes isMember runs := by
    rcases mem_change isMember with isOld | ⟨rfl, former, found, rfl⟩
    · exact ⟨_, isOld, runs, rfl, List.Subset.refl _⟩
    · exact ⟨former, mem_of_lookup found, loses former runs⟩
  openFiles := id

theorem filterProcesses (kept : Nat × Process → Bool) :
    Narrows system { system with processes := system.processes.filter kept } where
  processes isMember runs :=
    ⟨_, (List.mem_filter.mp isMember).1, runs, rfl, List.Subset.refl _⟩
  openFiles := id

theorem drop : Narrows system (system.drop number) := by
  have forgets : Narrows system
      { system with openFiles := system.openFiles.filter fun found => found.1 ≠ number } :=
    { processes := fun isMember runs => ⟨_, isMember, runs, rfl, List.Subset.refl _⟩
      openFiles := lookup_of_filter }
  rw [System.drop]
  split
  next => exact .refl system
  next =>
    split
    next => exact .refl system
    next openFile found =>
      dsimp only
      split
      next pipe => split <;> exact ⟨forgets.processes, forgets.openFiles⟩
      next place identity => split <;> exact ⟨forgets.processes, forgets.openFiles⟩
      next => exact forgets

theorem close {descriptor : Nat} : Narrows system (system.close number descriptor) := by
  rw [System.close]
  split
  next => exact .refl system
  next held found =>
    have closes : Narrows system (system.changeProcess number fun process =>
        { process with descriptors := process.descriptors.filter (·.1 ≠ descriptor) }) :=
      .changeProcess fun _ runs => ⟨runs, rfl, fun _ isMember => (List.mem_filter.mp isMember).1⟩
    exact closes.trans .drop

theorem note {signal : Nat} : Narrows system (system.note number signal) :=
  .changeProcess fun _ runs => ⟨runs, rfl, List.Subset.refl _⟩

theorem finish {ending : Ending} : Narrows system (system.finish number ending) := by
  rw [System.finish]
  split
  next => exact .refl system
  next process found =>
    split
    next => exact .refl system
    next =>
      have ends : Narrows system (system.changeProcess number fun process =>
          { process with ending := some ending, descriptors := [], noted := [] }) :=
        .changeProcess fun process runs => by cases runs
      have closes (held : List (Nat × Nat)) (before : System) : Narrows before
          (held.foldl (fun system pair => system.drop pair.2) before) := by
        induction held generalizing before with
        | nil => exact .refl before
        | cons pair others ih => exact .trans .drop (ih _)
      have forgotten := ends.trans ((closes process.descriptors _).trans (.filterProcesses
        fun other => !(other.2.parent = number && other.2.ending.isSome)))
      dsimp only
      split
      next parent isThere =>
        split
        next => exact forgotten.trans (.filterProcesses _)
        next =>
          split
          next => exact forgotten.trans .note
          next => exact forgotten
      next => exact forgotten

end Narrows

/-- The process can write to one of the outputs of the first process. -/
def holdsOutputs (system : System) (process : Process) : Bool :=
  Shell.holds system .output process || Shell.holds system .errors process

theorem Narrows.holds {before after : System} (narrows : Narrows before after) {stream : Stream}
    {former process : Process} (fewer : process.descriptors ⊆ former.descriptors)
    (holds : Shell.holds after stream process = true) :
    Shell.holds before stream former = true := by
  obtain ⟨pair, isMember, leads⟩ := List.any_eq_true.mp holds
  dsimp only at leads
  cases found : after.openFiles.lookup pair.2 with
  | none =>
      rw [found] at leads
      cases leads
  | some openFile =>
      refine List.any_eq_true.mpr ⟨pair, fewer isMember, ?_⟩
      dsimp only
      rwa [narrows.openFiles found, ← found]

theorem Narrows.holdsOutputs {before after : System} (narrows : Narrows before after)
    {former process : Process} (fewer : process.descriptors ⊆ former.descriptors)
    (holds : after.holdsOutputs process = true) : before.holdsOutputs former = true := by
  rcases Bool.or_eq_true_iff.mp holds with output | errors
  · exact Bool.or_eq_true_iff.mpr (.inl (narrows.holds fewer output))
  · exact Bool.or_eq_true_iff.mpr (.inr (narrows.holds fewer errors))

/-- Every process that still runs and holds an output is in the group of the first process. -/
def KeepsOutputs (system : System) : Prop :=
  ∀ number process, (number, process) ∈ system.processes → process.ending = none →
    system.holdsOutputs process = true → process.inGroup = true

theorem KeepsOutputs.narrows {before after : System} (keeps : before.KeepsOutputs)
    (narrows : Narrows before after) : after.KeepsOutputs := by
  intro number process isMember runs holds
  obtain ⟨former, wasMember, ran, sameGroup, fewer⟩ := narrows.processes isMember runs
  exact sameGroup ▸ keeps number former wasMember ran (narrows.holdsOutputs fewer holds)

/-- The system after a process has started another one beside it. -/
def forked (number : Nat) (system : System) : System :=
  match system.process? number with
  | none => system
  | some parent =>
      let started := { parent with parent := number, noted := [], isStopped := false }
      { system with
        processes := system.processes ++ [(system.nextProcess, started)]
        nextProcess := system.nextProcess + 1 }

theorem KeepsOutputs.forked {system : System} {number : Nat} (keeps : system.KeepsOutputs) :
    (system.forked number).KeepsOutputs := by
  rw [System.forked]
  split
  next => exact keeps
  next parent found =>
    intro other process isMember runs holds
    rcases List.mem_append.mp isMember with isOld | isNew
    · exact keeps other process isOld runs holds
    · obtain ⟨rfl, rfl⟩ := Prod.mk.inj (List.mem_singleton.mp isNew)
      exact keeps number parent (mem_of_lookup found) runs holds

end System

/-- Something that a process does that bears on who holds the outputs. -/
inductive Move
  /-- Start another process, which gets everything that is open. -/
  | fork
  | close (descriptor : Nat)
  /-- Go to another group, or back to the group of the first process. -/
  | regroup (inGroup : Bool)
  | exit (ending : Supervision.Ending)
  deriving DecidableEq, Repr

/-- What a move makes of the system; a process that has ended makes none. -/
def Move.make (number : Nat) (move : Move) (system : System) : System :=
  if system.isAlive number then
    match move with
    | .fork => system.forked number
    | .close descriptor => system.close number descriptor
    | .regroup inGroup => system.changeProcess number fun process => { process with inGroup }
    | .exit ending => system.finish number ending
  else system

/-- A process that leaves the group has closed both outputs. -/
def Move.IsTidy (number : Nat) (move : Move) (system : System) : Prop :=
  move = .regroup false →
    (system.process? number).all fun process => !system.holdsOutputs process

instance (number : Nat) (move : Move) (system : System) : Decidable (move.IsTidy number system) :=
  inferInstanceAs (Decidable (_ → _))

/-- No tidy move lets anybody outside the group hold an output. -/
theorem Move.keepsOutputs {number : Nat} {move : Move} {system : System}
    (keeps : system.KeepsOutputs) (tidy : move.IsTidy number system) :
    (move.make number system).KeepsOutputs := by
  unfold make
  split
  next =>
    cases move with
    | fork => exact keeps.forked
    | close descriptor => exact keeps.narrows .close
    | regroup inGroup =>
        intro other process isMember runs holds
        rcases mem_change isMember with isOld | ⟨rfl, former, found, rfl⟩
        · exact keeps other process isOld runs holds
        · cases inGroup with
          | true => rfl
          | false =>
              have closed := tidy rfl
              have process? : system.process? other = some former := found
              rw [process?, Option.all_some] at closed
              have still : system.holdsOutputs former = true := holds
              simp [still] at closed
    | exit ending => exact keeps.narrows .finish
  next => exact keeps

/-- Starting a process beside the one that acts is the move of a fork. -/
theorem Simulation.step_fork {simulation : Simulation} {runner : Runner} {child : Thread}
    {next : Nat → Thread} {moment : Nat} (forks : runner.thread = .fork child next)
    (runs : (simulation.system.process? runner.number).isSome) :
    (simulation.step runner moment).system =
      { simulation.system with
        now := max moment simulation.system.now, current := runner.number }.forked
          runner.number := by
  obtain ⟨process, found⟩ := Option.isSome_iff_exists.mp runs
  have same : ({ simulation.system with
      now := max moment simulation.system.now, current := runner.number } : System).process?
        runner.number = some process := found
  rw [step, forks]
  simp only [System.forked, same]

end SnippetSandbox.Kernel
