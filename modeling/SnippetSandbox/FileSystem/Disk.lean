import SnippetSandbox.FileSystem.Resolve

/-!
# Operations on files

A disk is a tree of files with a working directory.  Questions about it never
fail.  Every other operation either takes place or is refused with a cause, and
a refused operation leaves the files as they were; only the write of a file's
bytes can be cut short.  Besides the refusals that the files themselves demand,
a disk carries a schedule of faults, one decision for each coming operation.
-/

namespace SnippetSandbox.FileSystem

/-- An operation that fails for no reason of its own.  Of a write, the first
bytes may have been stored before it failed. -/
structure Fault where
  cause : Cause
  stored : Nat := 0
  deriving DecidableEq

/-- What identifies an opened file, whatever path led to it. -/
inductive FileKey
  | file (identity : Nat)
  | device (kind : Device)
  deriving DecidableEq, Repr

/-- The files, the working directory, the files that somebody has locked, and what
happens to the next operations. -/
structure Disk where
  tree : Tree
  current : Place
  locked : List FileKey := []
  faults : List (Option Fault) := []

/-- Something done with a disk that may be refused. -/
abbrev Operation := ExceptT Cause (StateM Disk)

namespace Disk

/-- Where a path leads, the link at its end followed. -/
def find (disk : Disk) (path : String) : Except Cause Target :=
  disk.tree.find disk.current .content path

/-- Where a path leads, the link at its end not followed. -/
def findLink (disk : Disk) (path : String) : Except Cause Target :=
  disk.tree.find disk.current .entry path

/-- What the last name of a path stands for, with or without a slash behind it. -/
def findName (disk : Disk) (path : String) : Except Cause Target :=
  disk.tree.find disk.current .name path

def entryAt? (disk : Disk) (path : String) : Except Cause Entry :=
  match disk.find path with
  | .ok (.present _ entry) => .ok entry
  | .ok (.absent _ _) => .error .notFound
  | .error cause => .error cause

def pathExists (disk : Disk) (path : String) : Bool :=
  disk.entryAt? path matches .ok _

def isDirectory (disk : Disk) (path : String) : Bool :=
  disk.entryAt? path matches .ok .directory

def isFile (disk : Disk) (path : String) : Bool :=
  disk.entryAt? path matches .ok (.file ..)

def isExecutable (disk : Disk) (path : String) : Bool :=
  disk.entryAt? path matches .ok (.file _ _ true)

/-- How many bytes the entry at a path holds, links followed. -/
def size (disk : Disk) (path : String) : Except Cause Nat :=
  (disk.entryAt? path).map fun
    | .file _ content _ => content.size
    | _ => 0

/-- The absolute path of the entry that a path leads to, without links. -/
def canonical (disk : Disk) (path : String) : Except Cause String :=
  match disk.find path with
  | .ok (.present place _) => .ok place.path
  | .ok (.absent _ _) => .error .notFound
  | .error cause => .error cause

/-- The next decision of the schedule, and the disk after it has been used up. -/
def nextFault (disk : Disk) : Option Fault × Disk :=
  match disk.faults with
  | [] => (none, disk)
  | fault :: later => (fault, { disk with faults := later })

end Disk

/-- Do something in one go, unless a fault strikes; a refusal changes nothing. -/
def attempt {Result : Type} (action : Disk → Except Cause (Result × Disk)) :
    Operation Result := fun disk =>
  match disk.nextFault with
  | (some fault, rest) => (.error fault.cause, rest)
  | (none, rest) =>
      match action rest with
      | .ok (result, changed) => (.ok result, changed)
      | .error cause => (.error cause, rest)

/-- Make one directory; the directory around it must be there. -/
def makeDirectory (path : String) : Operation Unit :=
  attempt fun disk =>
    match disk.findName path with
    | .ok (.absent place _) => .ok ((), { disk with tree := disk.tree.put place .directory })
    | .ok (.present _ _) => .error .alreadyExists
    | .error cause => .error cause

/-- The bytes of a file. -/
def readFile (path : String) : Operation ByteArray :=
  attempt fun disk =>
    match disk.entryAt? path with
    | .ok (.file _ content _) => .ok (content, disk)
    | .ok (.device _) => .ok (ByteArray.empty, disk)
    | .ok _ => .error .isDirectory
    | .error cause => .error cause

def readText (path : String) : Operation String := do
  let bytes ← readFile path
  match String.fromUTF8? bytes with
  | some text => pure text
  | none => throw .notText

/-- What an opened file is written to. -/
inductive Handle
  | file (place : Place) (identity : Nat) (executable : Bool)
  | device (kind : Device)

def Handle.key : Handle → FileKey
  | .file _ identity _ => .file identity
  | .device kind => .device kind

/-- Open a file for writing.  A missing file is made; with `truncate`, one that is
there loses its bytes. -/
def openForWriting (path : String) (truncate : Bool) (executable : Bool) : Operation Handle :=
  attempt fun disk =>
    match disk.tree.find disk.current .newFile path with
    | .ok (.present place (.file identity content mode)) =>
        let kept := if truncate then ByteArray.empty else content
        .ok (.file place identity mode,
          { disk with tree := disk.tree.put place (.file identity kept mode) })
    | .ok (.present _ (.device kind)) => .ok (.device kind, disk)
    | .ok (.present _ _) => .error .isDirectory
    | .ok (.absent place _) =>
        .ok (.file place disk.tree.nextIdentity executable,
          { disk with tree := disk.tree.create place ByteArray.empty executable })
    | .error cause => .error cause

/-- Give an opened file these bytes.  A fault may leave only the first of them. -/
def storeBytes (handle : Handle) (bytes : ByteArray) : Operation Unit := fun disk =>
  let (fault, rest) := disk.nextFault
  match handle with
  | .file place identity executable =>
      let kept := match fault with
        | none => bytes
        | some fault => bytes.extract 0 fault.stored
      let written := { rest with tree := rest.tree.put place (.file identity kept executable) }
      match fault with
      | none => (.ok (), written)
      | some fault => (.error fault.cause, written)
  | .device kind =>
      match fault with
      | some fault => (.error fault.cause, rest)
      | none =>
          if kind = .full ∧ bytes.size ≠ 0 then (.error .noSpace, rest) else (.ok (), rest)

/-- Make a file hold these bytes: it is opened, emptied, and written. -/
def writeFile (path : String) (bytes : ByteArray) : Operation Unit := do
  let handle ← openForWriting path true false
  storeBytes handle bytes

def writeText (path text : String) : Operation Unit :=
  writeFile path text.toUTF8

/-- Make a file hold what another one holds; a new file can be executed if that
one can. -/
def copyFile (source destination : String) : Operation Unit := do
  let (bytes, executable) ← attempt fun disk =>
    match disk.entryAt? source with
    | .ok (.file _ content executable) => .ok ((content, executable), disk)
    | .ok _ => .error .notRegularFile
    | .error cause => .error cause
  let handle ← openForWriting destination true executable
  storeBytes handle bytes

/-- Lock a file for oneself; it must not be locked already. -/
def takeLock (key : FileKey) : Operation Unit :=
  attempt fun disk =>
    if key ∈ disk.locked then .error .wouldBlock
    else .ok ((), { disk with locked := key :: disk.locked })

def releaseLock (key : FileKey) (disk : Disk) : Disk :=
  { disk with locked := disk.locked.erase key }

def readDirectory (path : String) : Operation (List String) :=
  attempt fun disk =>
    match disk.find path with
    | .ok (.present place .directory) => .ok (disk.tree.names place, disk)
    | .ok (.present _ _) => .error .notDirectory
    | .ok (.absent _ _) => .error .notFound
    | .error cause => .error cause

/-- Remove an entry that is no directory; of a link, the link itself. -/
def removeFile (path : String) : Operation Unit :=
  attempt fun disk =>
    match disk.findName path with
    | .ok (.present _ .directory) => .error .isDirectory
    | .ok (.present place _) =>
        if Path.endsInSlash path then .error .notDirectory
        else .ok ((), { disk with tree := disk.tree.clear place })
    | .ok (.absent _ _) => .error .notFound
    | .error cause => .error cause

/-- Remove a directory with everything in it; of a link, the link itself.  Links
inside are removed and not followed.  The directory itself goes last, and it stays
when its path went through one of the links that were inside. -/
def removeTree (path : String) : Operation Unit :=
  attempt fun disk =>
    match disk.findLink path with
    | .ok (.present place .directory) =>
        let emptied := disk.tree.put place .directory
        match emptied.find disk.current .entry path with
        | .ok (.present _ _) => .ok ((), { disk with tree := disk.tree.clear place })
        | _ => .ok ((), { disk with tree := emptied })
    | .ok (.present place (.link _)) => .ok ((), { disk with tree := disk.tree.clear place })
    | .ok (.present _ _) => .error .notDirectory
    | .ok (.absent _ _) => .error .notFound
    | .error cause => .error cause

def setExecutable (path : String) (executable : Bool) : Operation Unit :=
  attempt fun disk =>
    match disk.find path with
    | .ok (.present place (.file identity content _)) =>
        .ok ((), { disk with tree := disk.tree.put place (.file identity content executable) })
    | .ok (.present _ _) => .ok ((), disk)
    | .ok (.absent _ _) => .error .notFound
    | .error cause => .error cause

def makeLink (path target : String) : Operation Unit :=
  attempt fun disk =>
    match disk.findName path with
    | .ok (.absent place false) =>
        .ok ((), { disk with tree := disk.tree.put place (.link target) })
    | .ok (.absent _ true) => .error .notFound
    | .ok (.present _ _) => .error .alreadyExists
    | .error cause => .error cause

/-- A failure to make a directory is none when the path leads to one by now. -/
def acceptDirectory (path : String) (cause : Cause) : Operation Unit := do
  if (← get).isDirectory path then pure () else throw cause

/-- Make a directory and at most so many around it.  The path itself is tried
first, and only when something around it is missing is its parent made.  A
directory that is already there, through a link or not, is no failure, and the
empty path needs none. -/
def makeDirectoriesUp : Nat → String → Operation Unit
  | levels, path => do
      if path = "" then return ()
      try makeDirectory path
      catch cause =>
        if cause = .notFound then
          match levels, Path.parent? path with
          | fewer + 1, some around =>
              makeDirectoriesUp fewer around
              try makeDirectory path
              catch later => acceptDirectory path later
          | _, _ => throw (.reported "failed to create whole tree")
        else acceptDirectory path cause

/-- Make a directory together with the missing ones around it; there are at most
as many as the path has segments. -/
def makeDirectories (path : String) : Operation Unit :=
  makeDirectoriesUp (Path.segments path).length path

end SnippetSandbox.FileSystem
