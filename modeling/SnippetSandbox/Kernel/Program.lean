import SnippetSandbox.FileSystem.Rearrange
import SnippetSandbox.Kernel.System

/-!
# Programs

What a process is yet to do is a thread: it ends, does something to the system at
once, lets time pass, waits until it can do something, or starts another process
beside it.  A program is a way to get a result; what comes after the result is
given to it, so programs join without looking into each other.
-/

namespace SnippetSandbox.Kernel

open FileSystem Supervision

/-- What a process is yet to do. -/
inductive Thread
  | finished (ending : Ending)
  | act (effect : System → System × Thread)
  | pause (nanoseconds : Nat) (next : Unit → Thread)
  | await (attempt : System → Option (System × Thread))
  | fork (child : Thread) (next : Nat → Thread)

def Program (Result : Type) : Type := (Result → Thread) → Thread

instance : Monad Program where
  pure result := fun next => next result
  bind program rest := fun next => program fun result => rest result next

namespace Program

def act {Result : Type} (effect : System → Result × System) : Program Result := fun next =>
  .act fun system =>
    let (result, changed) := effect system
    (changed, next result)

def ask {Result : Type} (question : System → Result) : Program Result := fun next =>
  .act fun system => (system, next (question system))

def modify (effect : System → System) : Program Unit := fun next =>
  .act fun system => (effect system, next ())

def await {Result : Type} (attempt : System → Option (Result × System)) : Program Result :=
  fun next => .await fun system =>
    (attempt system).map fun (result, changed) => (changed, next result)

def pause (nanoseconds : Nat) : Program Unit := fun next => .pause nanoseconds next

def fork (child : Program Ending) : Program Nat := fun next => .fork (child .finished) next

def finish {Result : Type} (ending : Ending) : Program Result := fun _ => .finished ending

def changeSelf (with' : Process → Process) : Program Unit :=
  modify fun system => system.changeProcess system.current with'

def askSelf {Result : Type} [Inhabited Result] (question : Process → Result) : Program Result :=
  ask fun system => ((system.process? system.current).map question).getD default

def self : Program Nat := ask System.current

def onDisk {Result : Type} (operation : Operation Result) : Program (Except Cause Result) :=
  act fun system => system.onDisk operation

def askDisk {Result : Type} (question : Disk → Result) : Program Result :=
  ask fun system => question system.seen

/-- Give an entry another path.  Processes that work in a directory stay in it. -/
def rename (source target : String) : Program (Except Cause Unit) :=
  act fun system =>
    let placeOf (disk : Disk) (path : String) : Option Place :=
      match disk.findName path with
      | .ok (.present place _) | .ok (.absent place _) => some place
      | .error _ => none
    let (result, moved) := system.onDisk (moveEntry source target)
    match result, placeOf system.seen source, placeOf system.seen target with
    | .ok (), some origin, some place =>
        let follow (directory : Place) : Place :=
          if origin.isSuffixOf directory then
            directory.take (directory.length - origin.length) ++ place
          else directory
        (.ok (), { moved with
          processes := moved.processes.map fun (number, process) =>
            (number, { process with directory := follow process.directory }) })
    | _, _, _ => (result, moved)

def share (source target : String) (follows : Bool) : Program (Except Cause Unit) :=
  act fun system =>
    let (result, changed) := system.onDisk (shareFile source target follows)
    match result, changed.seen.findName target with
    | .ok (), .ok (.present _ (.file identity _ _)) =>
        (result, { changed with shared := identity :: changed.shared })
    | _, _ => (result, changed)

/-! ## Descriptors -/

def badDescriptor : Cause := .system 9

def brokenPipe : Cause := .system 32

def close (descriptor : Nat) : Program Unit :=
  modify fun system => system.close system.current descriptor

/-- Lead a descriptor to what another one leads to; the result tells whether there is
such a one. -/
def duplicate (source target : Nat) : Program Bool :=
  act fun system =>
    match system.openFile? source with
    | none => (false, system)
    | some (number, _) => (true, if source = target then system else system.lead target number)

def isOpen (descriptor : Nat) : Program Bool :=
  ask fun system => (system.openFile? descriptor).isSome

/-- The lowest free descriptor from a number on, led to what another one leads to. -/
def duplicateFrom (least source : Nat) : Program (Option Nat) :=
  act fun system =>
    match system.openFile? source with
    | none => (none, system)
    | some (number, _) =>
        let free := system.freeDescriptor least
        (some free, system.lead free number)

def hold (openFile : OpenFile) : Program Nat :=
  act fun system =>
    let free := system.freeDescriptor 0
    let (number, opened) := system.opened openFile
    (free, opened.lead free number)

/-- Keep clear of the input and the outputs: another descriptor, in place of one of
theirs. -/
def moveAside (descriptor : Nat) : Program Nat := do
  if 2 < descriptor then return descriptor
  match ← duplicateFrom 3 descriptor with
  | none => return descriptor
  | some aside =>
      close descriptor
      return aside

/-- A new pipe, as the descriptors of its end to read from and its end to write to. -/
def pipe : Program (Nat × Nat) := do
  let number ← act System.piped
  let reading ← hold { stream := .pipe number, reads := true, writes := false }
  let writing ← hold { stream := .pipe number, reads := false, writes := true }
  return (reading, writing)

def descriptorOfPath? (path : String) : Option Nat :=
  match path with
  | "/dev/stdin" => some 0
  | "/dev/stdout" => some 1
  | "/dev/stderr" => some 2
  | _ =>
      ["/dev/fd/", "/proc/self/fd/"].findSome? fun start =>
        let digits := path.toList.drop start.length
        if path.startsWith start && digits ≠ [] && digits.all Char.isDigit then
          some (Text.number digits)
        else none

def reopen (descriptor : Nat) (reads writes truncates appends : Bool) :
    Program (Except Cause Nat) := do
  match ← ask fun system => system.openFile? descriptor with
  | none => return .error .notFound
  | some (_, { stream, .. }) =>
      match stream with
      | .file place identity =>
          if truncates then modify fun system => system.store place identity .empty
      | _ => pure ()
      return .ok (← hold { stream, reads, writes, appends })

def openToRead (path : String) (writes : Bool) : Program (Except Cause Nat) := do
  if let some descriptor := descriptorOfPath? path then
    return ← reopen descriptor true writes false false
  let found ← askDisk fun disk =>
    disk.tree.find disk.current (if writes then .newFile else .content) (Raw.toText path)
  let held (stream : Stream) : Program (Except Cause Nat) := do
    return .ok (← hold { stream, reads := true, writes })
  match found with
  | .ok (.present place (.file identity _ _)) => held (.file place identity)
  | .ok (.present place .directory) =>
      if writes then return .error .isDirectory else held (.directory place)
  | .ok (.present _ (.device kind)) => held (.device kind)
  | .ok (.present _ (.link _)) => return .error .linkLoop
  | .ok (.absent _ _) =>
      if writes then
        match ← onDisk (openForWriting (Raw.toText path) false false) with
        | .ok (.file place identity _) => held (.file place identity)
        | .ok (.device kind) => held (.device kind)
        | .error cause => return .error cause
      else return .error .notFound
  | .error cause => return .error cause

def openToWrite (path : String) (appends : Bool) : Program (Except Cause Nat) := do
  if let some descriptor := descriptorOfPath? path then
    return ← reopen descriptor false true (!appends) appends
  match ← onDisk (openForWriting (Raw.toText path) (!appends) false) with
  | .ok (.file place identity _) =>
      -- An emptied file may have been open before.
      if !appends then modify fun system => system.store place identity .empty
      return .ok (← hold { stream := .file place identity, reads := false, writes := true, appends })
  | .ok (.device kind) =>
      return .ok (← hold { stream := .device kind, reads := false, writes := true, appends })
  | .error cause => return .error cause

/-- Read at most so many bytes; none are left when nothing is read. -/
def read (descriptor count : Nat) : Program (Except Cause ByteArray) :=
  await fun system =>
    match system.openFile? descriptor with
    | none => some (.error badDescriptor, system)
    | some (number, openFile) =>
        if !openFile.reads then some (.error badDescriptor, system)
        else
          match openFile.stream with
          | .output | .errors => some (.error badDescriptor, system)
          | .directory _ => some (.error .isDirectory, system)
          | .device .null => some (.ok .empty, system)
          | .device .full =>
              some (.ok ⟨Array.replicate count 0⟩, system)
          | .file place identity =>
              let content := system.content place identity
              let bytes := content.extract openFile.offset (openFile.offset + count)
              some (.ok bytes, { system with
                openFiles := change number
                  (fun openFile => { openFile with offset := openFile.offset + bytes.size })
                  system.openFiles })
          | .pipe pipe =>
              match system.pipes.lookup pipe with
              | none => some (.ok .empty, system)
              | some found =>
                  if found.size = 0 then
                    if system.hasEnd true pipe then none else some (.ok .empty, system)
                  else
                    let bytes := found.content.extract found.start (found.start + count)
                    some (.ok bytes, { system with
                      pipes := change pipe
                        (fun pipe => { pipe with start := pipe.start + bytes.size })
                        system.pipes })

/-- Read everything that is left.  `rounds` bounds how often something is read. -/
def readAll (descriptor : Nat) : Nat → ByteArray → Program (Except Cause ByteArray)
  | 0, bytes => return .ok bytes
  | rounds + 1, bytes => do
      match ← read descriptor Pipe.capacity with
      | .error cause => return .error cause
      | .ok more =>
          if more.isEmpty then return .ok bytes else readAll descriptor rounds (bytes ++ more)

/-- Read some bytes of a file once more. -/
def stepBack (descriptor count : Nat) : Program Unit :=
  modify fun system =>
    match system.openFile? descriptor with
    | some (number, { stream := .file _ _, .. }) =>
        { system with
          openFiles := change number
            (fun openFile => { openFile with offset := openFile.offset - count })
            system.openFiles }
    | _ => system

def manyRounds : Nat := 2 ^ 40

/-- Write what fits now, as soon as something does; the result is how many bytes were
written. -/
def writeSome (descriptor : Nat) (bytes : ByteArray) : Program (Except Cause Nat) :=
  await fun system =>
    match system.openFile? descriptor with
    | none => some (.error badDescriptor, system)
    | some (number, openFile) =>
        if !openFile.writes then some (.error badDescriptor, system)
        else
          let note (toErrors : Bool) : System :=
            { system with written := ⟨system.now, toErrors, bytes⟩ :: system.written }
          match openFile.stream with
          | .output => some (.ok bytes.size, note false)
          | .errors => some (.ok bytes.size, note true)
          | .directory _ => some (.error badDescriptor, system)
          | .device .null => some (.ok bytes.size, system)
          | .device .full =>
              some (if bytes.isEmpty then .ok 0 else .error .noSpace, system)
          | .file place identity =>
              let content := system.content place identity
              let offset := if openFile.appends then content.size else openFile.offset
              let stored := system.store place identity (System.overwrite content offset bytes)
              some (.ok bytes.size, { stored with
                openFiles := change number
                  (fun openFile => { openFile with offset := offset + bytes.size })
                  stored.openFiles })
          | .pipe pipe =>
              if !system.hasEnd false pipe then
                some (.error brokenPipe, system.signal system.current Signal.pipe)
              else
                let room := Pipe.capacity - ((system.pipes.lookup pipe).map Pipe.size).getD 0
                let fits := if bytes.size ≤ Pipe.whole then bytes.size ≤ room else 0 < room
                if !fits then none
                else
                  let part := bytes.extract 0 room
                  some (.ok part.size, { system with
                    pipes := change pipe (fun pipe => pipe.fill part) system.pipes })

/-- Write all of some bytes.  `rounds` bounds how often something is written. -/
def writeRounds (descriptor : Nat) : Nat → ByteArray → Program (Except Cause Unit)
  | 0, _ => return .ok ()
  | rounds + 1, bytes => do
      if bytes.isEmpty then return .ok ()
      match ← writeSome descriptor bytes with
      | .error cause => return .error cause
      | .ok count => writeRounds descriptor rounds (bytes.extract count bytes.size)

/-- Write all of some bytes. -/
def write (descriptor : Nat) (bytes : ByteArray) : Program (Except Cause Unit) :=
  writeRounds descriptor manyRounds bytes

/-- Write a text of bytes. -/
def writeText (descriptor : Nat) (raw : String) : Program (Except Cause Unit) :=
  write descriptor (Raw.bytes raw.toList)

/-! ## Signals and other processes -/

def react (signal : Nat) (reaction : Option Reaction) : Program Unit :=
  changeSelf fun process =>
    { process with
      reactions := (reaction.map fun reaction => (signal, reaction)).toList ++
        process.reactions.filter (·.1 ≠ signal) }

def takeNoted : Program (List Nat) :=
  act fun system =>
    let noted := ((system.process? system.current).map Process.noted).getD []
    (noted, if noted = [] then system
      else system.changeProcess system.current fun process => { process with noted := [] })

def noSuchProcess : Cause := .system 3

/-- The processes that a target stands for: one by its number, the own group for zero,
all but the first for minus one, and a group by the negative number of its first
process. -/
def targets (system : System) (target : Int) : List Nat :=
  let own := (system.process? system.current).any Process.inGroup
  let group (inGroup : Bool) := (system.processes.filter fun (_, process) =>
    process.inGroup = inGroup && process.ending.isNone).map Prod.fst
  if target = 0 then group own
  else if target = -1 then []
  else if target < 0 then
    match system.process? target.natAbs with
    | some process =>
        if (system.processes.all fun (number, other) =>
            target.natAbs ≤ number || other.inGroup ≠ process.inGroup) then group process.inGroup
        else []
    | none => []
  else if (system.process? target.natAbs).isSome then [target.natAbs] else []

def send (target : Int) (signal : Nat) : Program (Except Cause Unit) :=
  act fun system =>
    match targets system target with
    | [] => (.error noSuchProcess, system)
    | found => (.ok (), found.foldl (fun system number => system.signal number signal) system)

def children (system : System) : List (Nat × Process) :=
  system.processes.filter fun (_, process) => process.parent = system.current

/-- A process that has ended and was started by the acting one, which is forgotten. -/
def takeEnded? (system : System) : Option ((Nat × Ending) × System) :=
  let ended := (children system).findSome? fun (number, process) =>
    process.ending.map fun ending => (number, ending)
  ended.map fun (number, ending) =>
    ((number, ending),
      { system with processes := system.processes.filter (·.1 ≠ number) })

def reap : Program (Option (Nat × Ending)) :=
  act fun system =>
    match takeEnded? system with
    | some (found, changed) => (some found, changed)
    | none => (none, system)

/-- Wait until a process that was started has ended.  There may be none to wait for, and
a noted signal ends the waiting too, if it may. -/
def awaitEnd (mayBeDisturbed : Bool) : Program (Option (Nat × Ending)) :=
  await fun system =>
    match takeEnded? system with
    | some (found, changed) => some (some found, changed)
    | none =>
        let noted := (system.process? system.current).any fun process => process.noted ≠ []
        if (noted && mayBeDisturbed) || children system = [] then some (none, system) else none

def leaveGroup : Program Unit :=
  changeSelf fun process => { process with inGroup := false }

def leastPrivate : Nat := 10

/-- Begin to be another program: signals are noted no more, and private descriptors are
closed. -/
def becomeOther : Program Unit := do
  changeSelf fun process =>
    { process with
      reactions := process.reactions.filter fun (_, reaction) => reaction = .ignored
      noted := [] }
  let held ← askSelf fun process => process.descriptors.map Prod.fst
  for descriptor in held do
    if leastPrivate ≤ descriptor then close descriptor

end Program

end SnippetSandbox.Kernel
