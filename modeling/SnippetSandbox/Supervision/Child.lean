import SnippetSandbox.FileSystem.Disk
import SnippetSandbox.Time.Span

/-!
# Started programs

A program that has been started is known by what it has done at any later
moment: what it made of the disk, what it wrote, which processes it started in
its turn, and whether it has ended.  Nothing else is assumed about programs.
-/

namespace SnippetSandbox.Supervision

open FileSystem

/-- What to start: a program, its arguments, and its environment. -/
structure Command where
  program : String
  arguments : List String
  environment : List (String × String) := []
  deriving DecidableEq, Repr

/-- How a program ended of itself. -/
inductive Ending
  | exited (code : Nat)
  | killed (signal : Nat)
  deriving DecidableEq, Repr

def Ending.isSuccess (ending : Ending) : Bool :=
  ending = .exited 0

/-- A process that a program started, directly or not, and that still runs. -/
structure Descendant where
  /-- It has stayed in the program's own group of processes. -/
  inGroup : Bool
  /-- It can still write to the program's output. -/
  holdsOutput : Bool
  /-- It can still write to the program's error output. -/
  holdsErrors : Bool
  deriving DecidableEq, Repr

/-- What a program has done by some moment. -/
structure Progress where
  disk : Disk
  output : ByteArray
  errors : ByteArray
  descendants : List Descendant := []
  /-- What is still written to the output when the program's group is killed now. -/
  laterOutput : ByteArray := .empty
  /-- What is still written to the error output then. -/
  laterErrors : ByteArray := .empty

/-- A started program, by the time since it was started. -/
structure Child where
  /-- How it has ended of itself by then, if it has. -/
  ending : Time.Span → Option Ending
  progress : Time.Span → Progress

/-- Starts programs, or tells why one cannot be started. -/
abbrev Launcher := Command → Disk → Except Cause Child

end SnippetSandbox.Supervision
