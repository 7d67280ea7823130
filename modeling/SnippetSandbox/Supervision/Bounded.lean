import SnippetSandbox.Supervision.Wait
import SnippetSandbox.Task
import SnippetSandbox.Text.Utf8

/-!
# Running a program for a limited time

A program is started, watched until it ends or its time is up, and then its
whole group of processes is killed, so that nothing in the group can go on
writing.  Not being able to start it is a failure; a bad end and a timeout are
results.
-/

namespace SnippetSandbox.Supervision

open FileSystem Time

/-- What a program left behind that ended or was killed. -/
structure Finished where
  /-- How it ended; nothing if it was killed for its deadline. -/
  ending : Option Ending
  output : String
  errors : String
  deriving DecidableEq, Repr

namespace Finished

/-- The program was killed because its time was up. -/
def timedOut (finished : Finished) : Bool :=
  finished.ending.isNone

def isSuccess (finished : Finished) : Bool :=
  finished.ending.any Ending.isSuccess

end Finished

/-- Everything about one run of a program. -/
structure Course where
  deeds : List Deed
  disk : Disk
  result : Except Failure Finished
  /-- The processes that are still running in the end. -/
  survivors : List Descendant

/-- Where programs are run: how they are started, in which environment, and by
which clock. -/
structure Machine where
  launch : Launcher
  environment : List (String × String)
  clock : Clock

def Machine.command (machine : Machine) (program : String) (arguments : List String) : Command :=
  { program, arguments, environment := machine.environment }

def reportedName (program : String) : String :=
  if '\x00' ∈ program.toList then "<string-with-nul>" else program

/-- Run a program for no longer than a limit. -/
def supervise (machine : Machine) (command : Command) (limit : Span) (disk : Disk) :
    Course :=
  let name := reportedName command.program
  match machine.launch command disk with
  | .error cause => ⟨[], disk, .error (.toolchain (.notStarted name cause)), []⟩
  | .ok child =>
      match machine.clock.deadline? limit with
      | none =>
          let progress := child.progress ⟨0⟩
          ⟨[.start], progress.disk, .error .clockOverflow, progress.descendants⟩
      | some deadline =>
          let poll (round : Nat) := Except.ok (child.ending (machine.clock.elapsed round))
          let watched := watch machine.clock deadline poll (.ok ()) 0
          let progress := child.progress (machine.clock.elapsed watched.lastRound)
          { deeds := .start :: (watched.deeds ++ [.killGroup])
            disk := progress.disk
            result := match watched.ending with
              | .error cause => .error (.toolchain (.lostTrack name cause))
              | .ok ending =>
                  .ok
                    { ending
                      output := Text.lossyText (progress.output ++ progress.laterOutput)
                      errors := Text.lossyText (progress.errors ++ progress.laterErrors) }
            survivors := progress.descendants.filter fun process => !process.inGroup }

def runBounded (machine : Machine) (command : Command) (limit : Span) : Task Finished :=
  fun disk =>
    let course := supervise machine command limit disk
    (course.result, course.disk)

end SnippetSandbox.Supervision
