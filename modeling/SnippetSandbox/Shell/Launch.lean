import SnippetSandbox.Kernel.Simulation
import SnippetSandbox.Supervision.Wait
import SnippetSandbox.Utility.Catalogue

/-!
# Starting programs

A command is started when its program is found, may be executed, and holds an
image or a script with an interpreter.  The started program runs in a process of
its own, with an empty input and two outputs, and in a group of its own.
-/

namespace SnippetSandbox.Shell

open FileSystem Kernel Supervision Time Utility

def resolve (command : Supervision.Command) (disk : Disk) : Except Cause Invocation :=
  if (command.program :: command.arguments).any fun text => '\x00' ∈ text.toList then
    .error .nulInCommand
  else
    let searchPath := (command.environment.lookup "PATH").getD bareSearchPath
    let name := Raw.ofText command.program
    locate disk name (command.arguments.map Raw.ofText)
      (programPaths (Raw.ofText searchPath) name)

def firstProcess : Nat := 4000

def initialSystem (disk : Disk) : System :=
  let first : Process :=
    { parent := 1, descriptors := [(0, 0), (1, 1), (2, 2)], directory := disk.current }
  { disk
    current := firstProcess
    processes := [(firstProcess, first)]
    nextProcess := firstProcess + 1
    openFiles :=
      [(0, { stream := .device .null, reads := true, writes := false }),
        (1, { stream := .output, reads := false, writes := true }),
        (2, { stream := .errors, reads := false, writes := true })]
    nextNumber := 3 }

def startOf (environment : List (String × String)) (invocation : Invocation) (disk : Disk) :
    Simulation :=
  .start (initialSystem disk) do
    Program.pause programCost
    perform invocation (environment.map fun (name, value) => (Raw.ofText name, Raw.ofText value))

def followTo (moment : Nat) (simulation : Simulation) : Simulation :=
  simulation.advance firstProcess moment (moment + 1000)

/-- How far a run is followed to answer for the moments of one order of magnitude. -/
def horizon (order : Nat) : Nat := pollInterval * 2 ^ (order + 1)

def orderOf (moment : Span) : Nat := ((moment.nanoseconds - 1) / pollInterval).log2

def knownOrders : Nat := 40

/-- A run as it is at so many horizons, each found out at most once. -/
def milestones (start : Simulation) : Nat → Array (Thunk Simulation)
  | 0 => #[]
  | order + 1 =>
      let earlier := milestones start order
      let last := earlier.back?
      earlier.push (Thunk.mk fun _ =>
        followTo (horizon order) ((last.map Thunk.get).getD start))

def stateAt (start : Simulation) (known : Array (Thunk Simulation)) (moment : Span) :
    Simulation :=
  let order := orderOf moment
  let before := if order = 0 then start else ((known[order - 1]?).map Thunk.get).getD start
  followTo moment.nanoseconds before

def endingAt (start : Simulation) (known : Array (Thunk Simulation)) (moment : Span) :
    Option Ending :=
  let ahead := match known[orderOf moment]? with
    | some ahead => ahead.get
    | none => followTo moment.nanoseconds start
  (ahead.ended.filter fun (_, ended) => ended ≤ moment.nanoseconds).map Prod.fst

/-- The bytes that reached one of the outputs. -/
def writtenTo (toErrors : Bool) (written : List Kernel.Written) : ByteArray :=
  written.foldr
    (fun piece bytes => if piece.toErrors = toErrors then bytes ++ piece.bytes else bytes) .empty

def holds (system : System) (stream : Stream) (process : Process) : Bool :=
  process.descriptors.any fun (_, number) =>
    (system.openFiles.lookup number).any fun openFile => openFile.stream = stream

def descendant? (system : System) : Nat × Process → Option Descendant
  | (number, process) =>
      if number = firstProcess || process.ending.isSome then none
      else
        some
          { inGroup := process.inGroup
            holdsOutput := holds system .output process
            holdsErrors := holds system .errors process }

def killGroup (simulation : Simulation) : Simulation :=
  let killed := simulation.system.processes.foldl
    (fun system (number, process) =>
      if process.inGroup then system.finish number (.killed Signal.kill) else system)
    simulation.system
  let (system, runners) := Simulation.wake killed
    (simulation.runners.filter fun runner => killed.isAlive runner.number)
  { simulation with system, runners }

/-- How much longer than the program those processes are waited for that have left
its group. -/
def patience : Span := .ofMilliseconds 3600000

/-- The run when nobody can write to the outputs any more; `steps` bounds how often a
process goes on. -/
def awaitSilence (limit : Nat) : Nat → Simulation → Simulation
  | 0, simulation => simulation
  | steps + 1, simulation =>
      let system := simulation.system
      let isHeld := system.openFiles.any fun (_, openFile) =>
        openFile.stream = .output || openFile.stream = .errors
      if !isHeld then simulation
      else
        match Simulation.first? system simulation.runners with
        | none => simulation
        | some (runner, moment) =>
            if limit < moment then simulation
            else awaitSilence limit steps ((simulation.step runner moment).settle firstProcess)

def progressAt (current : Place) (start : Simulation) (known : Array (Thunk Simulation))
    (moment : Span) : Progress :=
  let reached := stateAt start known moment
  let system := reached.system
  let last := moment.nanoseconds + patience.nanoseconds
  let silent := (awaitSilence last (last + 1000) (killGroup reached)).system
  let later := silent.written.take (silent.written.length - system.written.length)
  { disk := { silent.disk with current }
    output := writtenTo false system.written
    errors := writtenTo true system.written
    descendants := system.processes.filterMap (descendant? system)
    laterOutput := writtenTo false later
    laterErrors := writtenTo true later }

def launch : Launcher := fun command disk =>
  (resolve command disk).map fun invocation =>
    let start := startOf command.environment invocation disk
    let known := milestones start knownOrders
    { ending := endingAt start known
      progress := progressAt disk.current start known }

end SnippetSandbox.Shell
