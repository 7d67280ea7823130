import SnippetSandbox.Kernel.Program

/-!
# Processes side by side

Every process runs at its own pace: what it does takes time, and the process whose
next deed comes first goes on.  A process that waits goes on at the moment when
what it waits for is there.  A simulation that was followed up to some moment can
be followed further, and shows more of the same run.
-/

namespace SnippetSandbox.Kernel

open Supervision

/-- How long a deed takes. -/
def deedCost : Nat := 1000

/-- How long it takes to start a process, for the one that does so. -/
def forkCost : Nat := 150000

/-- How long after its start a process begins. -/
def forkDelay : Nat := 400000

/-- How long it takes to begin to run another program. -/
def programCost : Nat := 500000

/-- A process with what it is yet to do. -/
structure Runner where
  number : Nat
  /-- When it goes on; none while it waits for something to happen. -/
  moment : Option Nat
  thread : Thread

/-- A system with all that its processes are yet to do. -/
structure Simulation where
  system : System
  runners : List Runner
  ended : Option (Ending × Nat) := none

namespace Simulation

/-- The runner that goes on first; of several, the one that is listed first. -/
def first? (system : System) (runners : List Runner) : Option (Runner × Nat) :=
  runners.foldl
    (fun best runner =>
      match runner.moment with
      | none => best
      | some moment =>
          let isStopped := (system.process? runner.number).any Process.isStopped
          if isStopped then best
          else
            match best with
            | some (_, earliest) => if moment < earliest then some (runner, moment) else best
            | none => some (runner, moment))
    none

def wake (system : System) : List Runner → System × List Runner
  | [] => (system, [])
  | runner :: others =>
      let unchanged (system : System) : System × List Runner :=
        let (system, others) := wake system others
        (system, runner :: others)
      match runner.moment, runner.thread with
      | none, .await attempt =>
          if (system.process? runner.number).any Process.isStopped then unchanged system
          else
            match attempt { system with current := runner.number } with
            | none => unchanged system
            | some (changed, thread) =>
                let (system, others) := wake changed others
                (system, { runner with moment := some (system.now + deedCost), thread } :: others)
      | _, _ => unchanged system

def put (runner : Runner) (runners : List Runner) : List Runner :=
  runners.map fun other => if other.number = runner.number then runner else other

/-- A runner that is going to be ended by a signal does nothing else any more. -/
def doomed (system : System) (runner : Runner) : Runner :=
  match (system.process? runner.number).bind Process.doom with
  | none => runner
  | some (signal, moment) => ⟨runner.number, some moment, .finished (.killed signal)⟩

def settle (first : Nat) (simulation : Simulation) : Simulation :=
  let system := simulation.system
  let ended := simulation.ended.or
    (((system.process? first).bind Process.ending).map fun ending => (ending, system.now))
  { simulation with
    runners := (simulation.runners.filter fun runner => system.isAlive runner.number).map
      (doomed system)
    ended }

/-- Let one runner do its next deed at a moment, or now when it was held back. -/
def step (runner : Runner) (moment : Nat) (simulation : Simulation) : Simulation :=
  let moment := max moment simulation.system.now
  let system := { simulation.system with now := moment, current := runner.number }
  let goOn (system : System) (cost : Nat) (thread : Thread) : Simulation :=
    let (system, runners) :=
      wake system (put { runner with moment := some (moment + cost), thread } simulation.runners)
    { simulation with system, runners }
  match runner.thread with
  | .finished ending => goOn (system.finish runner.number ending) 0 runner.thread
  | .act effect =>
      let (changed, thread) := effect system
      goOn changed deedCost thread
  | .pause nanoseconds next =>
      { simulation with
        system
        runners := put { runner with moment := some (moment + nanoseconds), thread := next () }
          simulation.runners }
  | .await attempt =>
      match attempt system with
      | some (changed, thread) => goOn changed deedCost thread
      | none => { simulation with system, runners := put { runner with moment := none } simulation.runners }
  | .fork child next =>
      let number := system.nextProcess
      let started : Process :=
        match system.process? runner.number with
        | some parent => { parent with parent := runner.number, noted := [], isStopped := false }
        | none => { parent := runner.number, descriptors := [], directory := [] }
      { simulation with
        system :=
          { system with
            processes := system.processes ++ [(number, started)]
            nextProcess := number + 1 }
        runners := put
          { runner with moment := some (moment + forkCost), thread := next number }
          simulation.runners ++ [⟨number, some (moment + forkDelay), child⟩] }

/-- Follow a simulation up to a moment.  Every deed takes time, so the steps that are
allowed are more than can be taken. -/
def advance (first limit : Nat) : Nat → Simulation → Simulation
  | 0, simulation => simulation
  | steps + 1, simulation =>
      match first? simulation.system simulation.runners with
      | none => { simulation with system := { simulation.system with now := limit } }
      | some (runner, moment) =>
          if limit < moment then
            { simulation with system := { simulation.system with now := limit } }
          else advance first limit steps ((simulation.step runner moment).settle first)

def start (system : System) (program : Program Ending) : Simulation :=
  { system, runners := [⟨system.current, some 0, program .finished⟩] }

end Simulation

end SnippetSandbox.Kernel
