import SnippetSandbox.Shell.Condition
import SnippetSandbox.Shell.Format
import SnippetSandbox.Shell.Input
import SnippetSandbox.Shell.Jobs
import SnippetSandbox.Shell.Search
import SnippetSandbox.Shell.Traps

/-!
# The shell's own commands

Some commands are carried out by the shell itself, with its own variables and
descriptors.  Here are those that do not carry out other commands.
-/

namespace SnippetSandbox.Shell

open Action Kernel

def truthStatus (holds : Bool) : Nat := if holds then 0 else 1

def echo (arguments : List String) : Action Nat := put (String.ofList (echoed arguments))

def printFormatted (arguments : List String) : Action Nat := do
  match ← withoutOptions arguments with
  | [] => fail "usage: printf format [arg ...]"
  | format :: given =>
      let filling := formatted format given
      for misfit in filling.misfits.reverse do complain misfit
      if let some problem := filling.problem then complain problem
      let status ← put (String.ofList filling.text.reverse)
      if filling.problem.isSome then return 2
      return if filling.misfits = [] then status else 1

def conditionView : Program Condition.View :=
  Program.ask fun system =>
    { disk := system.seen, changed := system.changeOf, beginning := System.beginning - 1 }

def checkCondition (arguments : List String) : Action Nat := do
  match Condition.value (← conditionView) arguments with
  | .ok holds => return truthStatus holds
  | .error problem => fail problem.message

def checkBracket (arguments : List String) : Action Nat := do
  if arguments.getLast?.any fun last => last.startsWith "]" then
    checkCondition arguments.dropLast
  else fail "missing ]"

/-- Leave loops or begin their next round, as the halt for a number of them does. -/
def moveInLoops (halt : Nat → Halt) (arguments : List String) : Action Nat := do
  let levels ← match arguments with
    | [] => pure 1
    | text :: _ =>
        let count ← natural text
        if count = 0 then fail ("Illegal number: " ++ text)
        pure count
  let loops ← own Own.loops
  if loops = 0 then return 0
  change fun state => { state with status := 0 }
  throw (halt (min levels loops))

def leaveFunction (arguments : List String) : Action Nat := do
  if let some text := arguments.head? then
    let status ← natural text
    change fun state => { state with status }
  throw (.leaveFunction (arguments ≠ []))

def leave (arguments : List String) : Action Nat := do
  if let some text := arguments.head? then
    let status ← natural text
    change fun state => { state with statusBefore := some status }
  throw .exited

def showTimes : Action Nat :=
  let line := "0m0.000000s 0m0.000000s"
  putLines [line, line]

def builtin? (name : String) (arguments : List String) : Option (Action Nat) :=
  match name with
  | ":" | "true" => some (return 0)
  | "false" => some (return 1)
  | "[" => some (checkBracket arguments)
  | "alias" => some (abbreviate arguments)
  | "bg" | "fg" => some (moveJob arguments)
  | "break" => some (moveInLoops .leaveLoop arguments)
  | "cd" | "chdir" => some (changeDirectory arguments)
  | "command" => some (describeOne arguments)
  | "continue" => some (moveInLoops .nextRound arguments)
  | "echo" => some (echo arguments)
  | "exit" => some (leave arguments)
  | "export" => some (markAll name exported Variable.isExported arguments)
  | "getopts" => some (findOption arguments)
  | "hash" => some (showFound arguments)
  | "jobs" => some (showJobs arguments)
  | "kill" => some (sendSignal arguments)
  | "local" => some (makeLocal arguments)
  | "printf" => some (printFormatted arguments)
  | "pwd" => some (showDirectory arguments)
  | "read" => some (readVariables arguments)
  | "readonly" => some (markAll name constant Variable.isConstant arguments)
  | "return" => some (leaveFunction arguments)
  | "set" => some (set arguments)
  | "shift" => some (shiftArguments arguments)
  | "test" => some (checkCondition arguments)
  | "times" => some showTimes
  | "trap" => some (trap arguments)
  | "type" => some (describeAll arguments)
  | "ulimit" => some (changeLimit arguments)
  | "umask" => some (changeMask arguments)
  | "unalias" => some (removeAbbreviations arguments)
  | "unset" => some (unset arguments)
  | "wait" => some (waitFor arguments)
  | _ => none

end SnippetSandbox.Shell
