import SnippetSandbox.Kernel.Signal
import SnippetSandbox.Supervision.Child
import SnippetSandbox.Text.Raw

/-!
# A system of processes

Processes share a disk, open files, pipes and a clock.  Each has descriptors that
lead to open files, a directory it works in, and its own way to react to signals.
An open file is there as long as some descriptor leads to it, and a pipe has an
end as long as some open file is that end.
-/

namespace SnippetSandbox.Kernel

open FileSystem Supervision

/-- What an open file is opened on. -/
inductive Stream
  | output
  | errors
  | file (place : Place) (identity : Nat)
  | directory (place : Place)
  | device (kind : Device)
  | pipe (number : Nat)
  deriving DecidableEq, Repr

/-- An opened stream; processes that got it from one another share its position. -/
structure OpenFile where
  stream : Stream
  offset : Nat := 0
  reads : Bool
  writes : Bool
  appends : Bool := false
  deriving DecidableEq, Repr

/-- What was written to a pipe, and how much of it was read. -/
structure Pipe where
  content : ByteArray := .empty
  start : Nat := 0

/-- How much a pipe can hold. -/
def Pipe.capacity : Nat := 65536

/-- How much of a write to a pipe is never torn apart. -/
def Pipe.whole : Nat := 4096

/-- How much a pipe holds. -/
def Pipe.size (pipe : Pipe) : Nat := pipe.content.size - pipe.start

/-- The pipe with some more bytes. -/
def Pipe.fill (pipe : Pipe) (bytes : ByteArray) : Pipe :=
  if pipe.start = pipe.content.size then { content := bytes }
  else { pipe with content := pipe.content ++ bytes }

/-- How a process reacts to a signal. -/
inductive Reaction
  | ignored
  | noted
  deriving DecidableEq, Repr

/-- A process as others see it. -/
structure Process where
  parent : Nat
  /-- The descriptors with the numbers of the open files they lead to. -/
  descriptors : List (Nat × Nat)
  directory : Place
  mask : Nat := 18
  inGroup : Bool := true
  /-- The signals to which it does not react in the usual way. -/
  reactions : List (Nat × Reaction) := []
  noted : List Nat := []
  isStopped : Bool := false
  doom : Option (Nat × Nat) := none
  ending : Option Ending := none

/-- Bytes that reached one of the first program's outputs. -/
structure Written where
  moment : Nat
  toErrors : Bool
  bytes : ByteArray

/-- Everything that processes share, with the processes. -/
structure System where
  disk : Disk
  /-- The nanoseconds that have passed since the first process was started. -/
  now : Nat := 0
  current : Nat
  processes : List (Nat × Process)
  nextProcess : Nat
  openFiles : List (Nat × OpenFile) := []
  pipes : List (Nat × Pipe) := []
  nextNumber : Nat := 0
  /-- What is in files that are gone but still open, by identity. -/
  lost : List (Nat × ByteArray) := []
  written : List Written := []
  changed : List (Nat × Nat) := []
  modes : List (Nat × Nat) := []
  shared : List Nat := []

def change {Value : Type} (key : Nat) (with' : Value → Value) :
    List (Nat × Value) → List (Nat × Value)
  | [] => []
  | (found, value) :: others =>
      if found = key then (found, with' value) :: others
      else (found, value) :: change key with' others

namespace System

def process? (system : System) (number : Nat) : Option Process :=
  system.processes.lookup number

def changeProcess (number : Nat) (with' : Process → Process) (system : System) : System :=
  { system with processes := change number with' system.processes }

def isAlive (system : System) (number : Nat) : Bool :=
  (system.process? number).any fun process => process.ending.isNone

def openFile? (system : System) (descriptor : Nat) : Option (Nat × OpenFile) := do
  let process ← system.process? system.current
  let number ← process.descriptors.lookup descriptor
  let openFile ← system.openFiles.lookup number
  return (number, openFile)

def isHeld (system : System) (number : Nat) : Bool :=
  system.processes.any fun (_, process) => process.descriptors.any fun (_, held) => held = number

def hasEnd (system : System) (writing : Bool) (pipe : Nat) : Bool :=
  system.openFiles.any fun (_, openFile) =>
    openFile.stream = .pipe pipe && (if writing then openFile.writes else openFile.reads)

/-- Forget an open file unless some descriptor leads to it, and a pipe that has no end. -/
def drop (number : Nat) (system : System) : System :=
  if system.isHeld number then system
  else
    match system.openFiles.lookup number with
    | none => system
    | some openFile =>
        let system :=
          { system with openFiles := system.openFiles.filter fun (found, _) => found ≠ number }
        match openFile.stream with
        | .pipe pipe =>
            if system.hasEnd true pipe || system.hasEnd false pipe then system
            else { system with pipes := system.pipes.filter fun (found, _) => found ≠ pipe }
        | .file _ identity =>
            let stays := system.openFiles.any fun (_, other) => match other.stream with
              | .file _ found => found = identity
              | _ => false
            if stays then system
            else { system with lost := system.lost.filter fun (found, _) => found ≠ identity }
        | _ => system

def close (process descriptor : Nat) (system : System) : System :=
  match (system.process? process).bind fun found => found.descriptors.lookup descriptor with
  | none => system
  | some number =>
      (system.changeProcess process fun found =>
        { found with descriptors := found.descriptors.filter (·.1 ≠ descriptor) }).drop number

def lead (descriptor number : Nat) (system : System) : System :=
  let before := (system.process? system.current).bind fun found =>
    found.descriptors.lookup descriptor
  let led := system.changeProcess system.current fun found =>
    { found with
      descriptors := (descriptor, number) :: found.descriptors.filter (·.1 ≠ descriptor) }
  match before with
  | some former => led.drop former
  | none => led

def opened (openFile : OpenFile) (system : System) : Nat × System :=
  let number := system.nextNumber
  (number,
    { system with
      openFiles := (number, openFile) :: system.openFiles
      nextNumber := number + 1 })

def piped (system : System) : Nat × System :=
  let number := system.nextNumber
  (number, { system with pipes := (number, {}) :: system.pipes, nextNumber := number + 1 })

/-- The lowest descriptor from a number on that the acting process has not in use. -/
def freeDescriptor (least : Nat) (system : System) : Nat :=
  let used := ((system.process? system.current).map fun found =>
    found.descriptors.map Prod.fst).getD []
  ((List.range (used.length + 1)).map (· + least)).find? (fun free => !used.contains free)
    |>.getD least

def note (process signal : Nat) : System → System :=
  changeProcess process fun found =>
    { found with
      noted := if found.noted.contains signal then found.noted else found.noted ++ [signal] }

/-- The process is at its end: its descriptors are closed, and its parent may note it.
Nobody waits for a process whose parent has ended. -/
def finish (number : Nat) (ending : Ending) (system : System) : System :=
  match system.process? number with
  | none => system
  | some process =>
      if process.ending.isSome then system
      else
        let ended := system.changeProcess number fun found =>
          { found with ending := some ending, descriptors := [], noted := [] }
        let closed := process.descriptors.foldl (fun system (_, held) => system.drop held) ended
        let forgotten :=
          { closed with
            processes := closed.processes.filter fun (_, other) =>
              !(other.parent = number && other.ending.isSome) }
        match forgotten.process? process.parent with
        | some parent =>
            if parent.ending.isSome then
              { forgotten with processes := forgotten.processes.filter (·.1 ≠ number) }
            else if parent.reactions.lookup Signal.child = some .noted then
              forgotten.note process.parent Signal.child
            else forgotten
        | none => forgotten

/-- How long it takes until a process is ended by a signal from another one. -/
def doomDelay : Nat := 50000

/-- A signal ends a process: the acting one at once, another one a little later. -/
def doom (number signal : Nat) (system : System) : System :=
  if number = system.current then system.finish number (.killed signal)
  else
    system.changeProcess number fun found =>
      { found with
        isStopped := false, doom := found.doom.or (some (signal, system.now + doomDelay)) }

def signal (number signal : Nat) (system : System) : System :=
  match system.process? number with
  | none => system
  | some process =>
      if process.ending.isSome || signal = 0 then system
      else
        let system :=
          if signal = Signal.resume then
            system.changeProcess number fun found => { found with isStopped := false }
          else system
        let reaction :=
          if Signal.unstoppable.contains signal then none else process.reactions.lookup signal
        match reaction with
        | some .ignored => system
        | some .noted => system.note number signal
        | none =>
            if Signal.harmless.contains signal then system
            else if Signal.halting.contains signal then
              system.changeProcess number fun found => { found with isStopped := true }
            else system.doom number signal

def placeOf? (system : System) (place : Place) (identity : Nat) : Option Place :=
  let isHere (entry : Entry) : Bool := match entry with
    | .file found _ _ => found = identity
    | _ => false
  if (system.disk.tree.lookup place).any isHere then some place
  else ((system.disk.tree.entriesBelow []).find? fun (_, entry) => isHere entry).map Prod.fst

def placesOf (system : System) (identity : Nat) : List Place :=
  (system.disk.tree.entriesBelow []).filterMap fun (place, entry) => match entry with
    | .file found _ _ => if found = identity then some place else none
    | _ => none

def content (system : System) (place : Place) (identity : Nat) : ByteArray :=
  match system.lost.lookup identity with
  | some content => content
  | none =>
      match (system.placeOf? place identity).bind system.disk.tree.lookup with
      | some (.file _ content _) => content
      | _ => .empty

/-- How exactly the moment of a change is known, in nanoseconds. -/
def tick : Nat := 4000000

def beginning : Nat := 1750000000 * (1000000000 / tick)

def modeOf (system : System) (identity : Nat) (executable : Bool) : Nat :=
  (system.modes.lookup identity).getD (if executable then 0o755 else 0o644)

def touch (identity : Nat) (system : System) : System :=
  { system with
    changed := (identity, beginning + system.now / tick) ::
      system.changed.filter (·.1 ≠ identity) }

/-- When a file was changed, which may have been before the first process was started. -/
def changeOf (system : System) (identity : Nat) : Nat :=
  (system.changed.lookup identity).getD (beginning - 1)

/-- Give a file other bytes, wherever it is now. -/
def store (place : Place) (identity : Nat) (bytes : ByteArray) (system : System) : System :=
  let system := system.touch identity
  if (system.lost.lookup identity).isSome then
    { system with lost := change identity (fun _ => bytes) system.lost }
  else
    let storeAt (system : System) (now : Place) : System :=
      match system.disk.tree.lookup now with
      | some (.file _ _ executable) =>
          let tree := system.disk.tree.put now (.file identity bytes executable)
          { system with disk := { system.disk with tree } }
      | _ => system
    if system.shared.contains identity then
      (system.placesOf identity).foldl storeAt system
    else
      match system.placeOf? place identity with
      | none => system
      | some now => storeAt system now

/-- Work on the disk as it is seen from the directory of the acting process.  Files
that are open are still there when their last name is gone. -/
def onDisk {Result : Type} (operation : Operation Result) (system : System) :
    Except Cause Result × System :=
  let disk := system.disk
  let directory := ((system.process? system.current).map Process.directory).getD []
  let (result, changed) := operation { disk with current := directory, faults := [] }
  let next :=
    { system with disk := { changed with current := disk.current, faults := disk.faults } }
  let made := (List.range (changed.tree.nextIdentity - disk.tree.nextIdentity)).map fun count =>
    disk.tree.nextIdentity + count
  let mask := ((system.process? system.current).map Process.mask).getD 0
  let next := made.foldl
    (fun system identity =>
      let touched := system.touch identity
      { touched with modes := (identity, 0o666 - (0o666 &&& mask)) :: touched.modes })
    next
  let gone := system.openFiles.filterMap fun (_, openFile) => match openFile.stream with
    | .file place identity =>
        if (system.lost.lookup identity).isSome || (next.placeOf? place identity).isSome then none
        else some (identity, system.content place identity)
    | _ => none
  (result, { next with lost := gone ++ next.lost })

/-- Ask about the disk as it is seen from the directory of the acting process. -/
def seen (system : System) : Disk :=
  let directory := ((system.process? system.current).map Process.directory).getD []
  { system.disk with current := directory }

/-- The bytes of a file with some bytes at a position in place of those there. -/
def overwrite (content : ByteArray) (offset : Nat) (bytes : ByteArray) : ByteArray :=
  if offset = content.size then content ++ bytes
  else
    let start :=
      if offset < content.size then content.extract 0 offset
      else content ++ ByteArray.mk (Array.replicate (offset - content.size) 0)
    start ++ bytes ++ content.extract (offset + bytes.size) content.size

end System

end SnippetSandbox.Kernel
