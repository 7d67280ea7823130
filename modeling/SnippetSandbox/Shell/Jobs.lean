import SnippetSandbox.Shell.Options

/-!
# Jobs

Processes that are started together make up a job.  A script waits for the job it
runs in front, and goes on beside those in the background, of which it keeps a list.
A process that has ended is noted the next time the script waits or looks.
-/

namespace SnippetSandbox.Shell

open Action Kernel Supervision

def endingStatus : Ending → Nat
  | .exited status => status
  | .killed signal => 128 + signal

/-! ## The list of jobs -/

/-- The number of the next job: the lowest one that is free, or whose job has ended and
was waited for. -/
def nextJobNumber (jobs : List Job) : Nat :=
  let isFree (number : Nat) : Bool :=
    (jobs.find? fun job => job.number = number).all fun job => job.isDone && job.isAwaited
  (((List.range (jobs.length + 1)).map (· + 1)).find? isFree).getD 1

def openJob : Action Nat := do
  let number := nextJobNumber (← own Own.jobs)
  change fun state =>
    { state with jobs := { number } :: state.jobs.filter fun job => job.number ≠ number }
  return number

def changeJob (number : Nat) (with' : Job → Job) : Action Unit :=
  change fun state =>
    { state with jobs := state.jobs.map fun job => if job.number = number then with' job else job }

def forgetJob (number : Nat) : Action Unit :=
  change fun state => { state with jobs := state.jobs.filter fun job => job.number ≠ number }

def joinJob (number process : Nat) : Action Unit :=
  changeJob number fun job => { job with processes := job.processes ++ [process] }

/-- Note how a process ended; the result is its job, if it has one. -/
def noteEnding (process : Nat) (ending : Ending) : Action (Option Nat) := do
  let isIts (job : Job) : Bool := !job.isDone && job.processes.contains process
  match ← own fun state => state.jobs.find? isIts with
  | none => return none
  | some job =>
      changeJob job.number fun job => { job with endings := (process, ending) :: job.endings }
      return some job.number

def noteEndings : Nat → Action Unit
  | 0 => return ()
  | rounds + 1 => do
      match ← Program.reap with
      | none => return ()
      | some (process, ending) =>
          let _ ← noteEnding process ending
          noteEndings rounds

def lookAround : Action Unit := noteEndings Program.manyRounds

/-- Tell that a process was killed, unless by one of the usual signals. -/
def tellEnding (ending : Ending) : Action Unit := do
  match ending with
  | .exited _ => return ()
  | .killed signal =>
      if signal = 2 || signal = Signal.pipe then return ()
      let _ ← writeText 2 (Signal.description signal ++ "\n")
      return ()

def isOver (number : Nat) : Action Bool :=
  own fun state => (state.jobs.find? fun job => job.number = number).all Job.isDone

/-- Wait until a job has ended.  A noted signal ends the waiting too, if it may; the
result tells whether it did not. -/
def awaitJob (number : Nat) (mayBeDisturbed : Bool) : Nat → Action Bool
  | 0 => return true
  | rounds + 1 => do
      if ← isOver number then
        lookAround
        return true
      match ← Program.awaitEnd mayBeDisturbed with
      | none => return false
      | some (process, ending) =>
          if (← noteEnding process ending) = some number then tellEnding ending
          awaitJob number mayBeDisturbed rounds

def jobStatus (number : Nat) : Action Nat :=
  own fun state =>
    (((state.jobs.find? fun job => job.number = number).bind Job.ending?).map endingStatus).getD 0

def finishJob (number : Nat) : Action Nat := do
  let _ ← awaitJob number false Program.manyRounds
  let status ← jobStatus number
  forgetJob number
  return status

/-! ## Starting processes -/

/-- What a started process takes over from a script.  Signals on which something was to
be done are in their usual state again; one in the background does not get the signals
of the keyboard. -/
def Own.inherited (isBehind : Bool) (state : Own) : Own :=
  { state with
    traps := state.traps.filter fun (_, text) => text = ""
    deaf := if isBehind then Signal.ignoredBehind ++ state.deaf else state.deaf
    jobs := [] }

/-- Start a process that carries out something with a copy of the own state.  One that is
the first of its job in the background has an empty input. -/
def startProcess (isBehind isFirst : Bool) (body : Action Unit) : Action Nat := do
  let state ← own id
  let signals := (state.traps.filter fun (_, text) => text ≠ "").map Prod.fst
  let child : Program Ending := do
    for signal in signals do Program.react signal none
    if isBehind then
      for signal in Signal.ignoredBehind do Program.react signal (some .ignored)
      if isFirst then
        Program.close 0
        let _ ← Program.openToRead "/dev/null" false
    let status ← body.asProgram (state.inherited isBehind)
    return .exited (status % 256)
  Program.fork child

/-! ## Looking at jobs -/

def describedEnding : Ending → String
  | .exited 0 => "Done"
  | .exited status => "Done(" ++ Text.decimal status ++ ")"
  | .killed signal => Signal.description signal

def descriptionWidth : Nat := 33

/-- A job as the list shows it.  `sign` marks the last two jobs. -/
def shownJob (sign : Char) (withProcesses : Bool) (job : Job) : String :=
  let number := "[" ++ Text.decimal job.number ++ "] " ++ sign.toString ++ " "
  let described := match job.isDone, job.ending? with
    | true, some ending => describedEnding ending
    | _, _ => "Running"
  let fit (text : String) (width : Nat) : String :=
    text ++ String.ofList (List.replicate (max 1 (descriptionWidth - width)) ' ')
  let shownProcess (process : Nat) : String := Text.decimal process ++ " "
  let first := number ++ (if withProcesses then shownProcess (job.processes.headD 0) else "") ++
    described
  let others := job.processes.tail
  if withProcesses then
    let indent := String.ofList (List.replicate number.length ' ')
    let further := others.map fun process =>
      let text := " |\n" ++ indent ++ shownProcess process
      fit text (text.length - 3)
    String.join (fit first first.length :: further) ++ "\n"
  else fit first first.length ++ String.join (others.map fun _ => " | ") ++ "\n"

def jobSign (jobs : List Job) (number : Nat) : Char :=
  match jobs with
  | last :: _ =>
      if last.number = number then '+'
      else if (jobs[1]?).any fun job => job.number = number then '-' else ' '
  | [] => ' '

def showJob (style : Option Char) (job : Job) : Action String := do
  if style = some 'p' then return Text.decimal (job.processes.headD 0) ++ "\n"
  let jobs ← own Own.jobs
  if job.isDone then forgetJob job.number
  return shownJob (jobSign jobs job.number) (style = some 'l') job

def findJob (shown : String) (name : List Char) : Action Job := do
  let jobs ← own Own.jobs
  let the (job : Option Job) (problem : String) : Action Job :=
    match job with
    | some job => return job
    | none => fail problem
  match name with
  | [] | ['+'] | ['%'] => the jobs.head? "No current job"
  | ['-'] => the jobs[1]? "No previous job"
  | _ =>
      let unknown := "No such job: " ++ shown
      if name.all Char.isDigit then
        the (jobs.find? fun job => job.number = Text.number name) unknown
      else fail unknown

def jobOf (argument : String) : Action Job := do
  match argument.toList with
  | '%' :: name => findJob argument name
  | _ => fail ("No such job: " ++ argument)

def showJobs (arguments : List String) : Action Nat := do
  let (options, names) ← takeOptions "lp" arguments
  let style := options.getLast?.map Prod.fst
  let mut shown := ""
  if names = [] then
    lookAround
    for job in ← own Own.jobs do shown := shown ++ (← showJob style job)
  else
    for name in names do shown := shown ++ (← showJob style (← jobOf name))
  if shown = "" then return 0
  put shown

/-- Put a job in front or behind, which only a terminal allows. -/
def moveJob (arguments : List String) : Action Nat := do
  let words ← withoutOptions arguments
  match words with
  | [] =>
      let _ ← findJob "" []
      fail "job (null) not created under job control"
  | name :: _ =>
      let _ ← jobOf name
      fail ("job " ++ name ++ " not created under job control")

/-! ## Waiting -/

def disturbedStatus : Action Nat := do
  return 128 + (← Program.askSelf fun process => process.noted.getLastD 0)

def awaitAll : Nat → Action Nat
  | 0 => return 0
  | rounds + 1 => do
      match (← own Own.jobs).find? fun job => !job.isDone with
      | none =>
          change fun state =>
            { state with jobs := state.jobs.map fun job => { job with isAwaited := true } }
          return 0
      | some _ =>
          match ← Program.awaitEnd true with
          | none =>
              if ← Program.askSelf fun process => decide (process.noted ≠ []) then disturbedStatus
              else return 0
          | some (process, ending) =>
              let _ ← noteEnding process ending
              awaitAll rounds

/-- Wait for jobs one after another; the status is that of the last one that is known. -/
def awaitEach : Nat → List String → Action Nat
  | status, [] => return status
  | status, name :: others => do
      let job? ← match name.toList with
        | '%' :: rest => some <$> findJob name rest
        | _ =>
            let process ← natural name
            own fun state => state.jobs.find? fun job => job.last = process
      match job? with
      | none => awaitEach status others
      | some job =>
          if ← awaitJob job.number true Program.manyRounds then
            changeJob job.number fun job => { job with isAwaited := true }
            awaitEach (← jobStatus job.number) others
          else disturbedStatus

def waitFor (arguments : List String) : Action Nat := do
  let words ← withoutOptions arguments
  if words = [] then awaitAll Program.manyRounds else awaitEach 127 words

/-! ## Sending signals -/

def killUsage : String :=
  "Usage: kill [-s sigspec | -signum | -sigspec] [pid | job]... or\nkill -l [exitstatus]"

/-- The signal that a text stands for, where the end of a script is none. -/
def sentSignal? (text : String) : Option Nat :=
  (Signal.ofText? text).filter fun signal => signal ≠ 0 || text.toList.all Char.isDigit

/-- List the names of signals, or name one by its number or by a status. -/
def listSignals (arguments : List String) : Action Nat := do
  match arguments with
  | [] => putLines ("0" :: ((List.range Signal.count).drop 1).map Signal.name)
  | text :: _ =>
      let number ← natural text
      let signal := if 128 < number then number - 128 else number
      if signal = 0 || Signal.count ≤ signal then
        fail ("invalid signal number or exit status: " ++ text)
      put (Signal.name signal ++ "\n")

/-- What a target of a signal is: a process, or a group as a negative number. -/
def targetOf (text : String) : Action Int := do
  match text.toList with
  | '%' :: name => return -Int.ofNat ((← findJob text name).processes.headD 0)
  | '-' :: rest => return -Int.ofNat (← natural (String.ofList rest))
  | _ => return Int.ofNat (← natural text)

def sendAll (signal : Nat) : Nat → List String → Action Nat
  | status, [] => return status
  | status, text :: others => do
      match ← Program.send (← targetOf text) signal with
      | .ok () => sendAll signal status others
      | .error _ =>
          complain "No such process\n"
          sendAll signal 1 others

def sendSignal (arguments : List String) : Action Nat := do
  match arguments with
  | [] => fail killUsage
  | first :: others =>
      let direct? := match first.toList with
        | '-' :: text => sentSignal? (String.ofList text)
        | _ => none
      match direct? with
      | some signal => if others = [] then fail killUsage else sendAll signal 0 others
      | none =>
          let isOption := first.startsWith "-"
          let (options, rest) ← if isOption then takeOptions "ls:" arguments
            else pure ([], arguments)
          let mut signal := 15
          let mut isTold := false
          for (letter, text) in options do
            if letter = 's' then
              match sentSignal? text with
              | some found =>
                  signal := found
                  isTold := true
              | none => fail ("invalid signal number or name: " ++ text)
          if options.any fun (letter, _) => letter = 'l' then
            if isTold && rest ≠ [] then fail killUsage
            listSignals rest
          else if rest = [] then fail killUsage
          else sendAll signal 0 rest

end SnippetSandbox.Shell
