import SnippetSandbox.Shell.Builtin
import SnippetSandbox.Shell.Redirect
import SnippetSandbox.Utility.Execute

/-!
# Running scripts

A command is carried out in the state of its process, or in a process of its own.  Its
status says how it ended, and what was set for signals is done between commands.  The
functions here get a number of steps that no script uses up.
-/

namespace SnippetSandbox.Shell

open Action FileSystem Kernel Supervision Utility

/-! ## Programs -/

/-- How many bytes of a file are looked at to find out whether it is a script. -/
def scriptBytes : Nat := 128

def isForeign (byte : UInt8) : Bool :=
  byte = 127 || (byte < 32 && !(9 ≤ byte && byte ≤ 15) && byte ≠ 27)

def isForeignContent (content : ByteArray) : Bool :=
  (((content.extract 0 scriptBytes).toList).takeWhile (· ≠ 10)).any isForeign

def usualShell : String := "/bin/sh"

/-- What starting the file at a path amounts to; scripts that name no program are the
usual shell's. -/
def startable (disk : Disk) (path name : String) (arguments : List String) :
    Except Cause Invocation :=
  match startFile disk path name arguments with
  | .error .notExecutableFormat =>
      let isForeign := match disk.entryAt? (Raw.toText path) with
        | .ok (.file _ content _) => isForeignContent content
        | _ => false
      if isForeign then .error .notExecutableFormat
      else startFile disk usualShell usualShell (path :: arguments)
  | found => found

def refusedStatus : Cause → Nat
  | .notFound | .notDirectory | .linkLoop | .nameTooLong => 127
  | _ => 126

/-- The first of some paths that can be started, or why the last one that is there
cannot. -/
def startFirst (disk : Disk) (name : String) (arguments : List String) :
    Cause → List String → Except Cause Invocation
  | cause, [] => .error cause
  | cause, path :: others =>
      match startable disk path name arguments with
      | .ok invocation => .ok invocation
      | .error .notFound | .error .notDirectory => startFirst disk name arguments cause others
      | .error found => startFirst disk name arguments found others

def become (execute : Execute) (paths : List String) (name : String) (arguments : List String) :
    Action Unit := do
  match ← Program.askDisk fun disk => startFirst disk name arguments .notFound paths with
  | .ok invocation =>
      let environment ← own Own.environment
      Program.pause programCost
      Program.becomeOther
      Program.finish (← execute invocation environment)
  | .error cause =>
      let problem := match cause with
        | .notFound | .notDirectory => "not found"
        | _ => causeText cause
      change fun state => { state with status := refusedStatus cause }
      complain (name ++ ": " ++ problem)
      throw .ended

/-! ## Commands and their words -/

/-- How a command is carried out. -/
structure Stance where
  isTested : Bool := false
  isLast : Bool := false

def Stance.inner (stance : Stance) : Stance := { stance with isLast := false }

/-- A simple command as far as its words have been expanded. -/
structure Head where
  meaning : Meaning
  fields : List String
  rest : List Word
  traced : List String
  passesFunctions : Bool := false
  /-- Where programs are searched for instead of in the usual places. -/
  other : Option String := none

/-- The last argument of a command, for the commands in which it may be an assignment. -/
def Head.assigns (head : Head) : Bool :=
  match head.meaning with
  | .command => head.fields.head?.any assigningCommands.contains
  | _ => false

/-- The fields of some words up to the first word that has any, and the other words. -/
def expandSome (substitute : Substitute) : List Word → Action (List String × List Word)
  | [] => return ([], [])
  | word :: others => do
      match ← expandFields substitute word with
      | [] => expandSome substitute others
      | fields => return (fields, others)

def meaningOf (passesFunctions : Bool) (name : String) : Action Meaning := do
  match ← own fun state => state.functions.lookup name with
  | some body => if passesFunctions then ownMeaning else return .function body
  | none => ownMeaning
where
  ownMeaning : Action Meaning :=
    return if specialCommands.contains name || ownCommands.contains name then .command
      else .program []

/-- What follows the command that passes functions over.  It stands for itself when
nothing follows, or an option of its own.  `count` bounds the number of steps. -/
def passOver (substitute : Substitute) : Nat → Head → Action (Option Head)
  | 0, _ => return none
  | count + 1, head => do
      let next (head : Head) : Action Head := do
        match head.fields with
        | [_] =>
            let (fields, rest) ← expandSome substitute head.rest
            return { head with fields, rest, traced := head.traced ++ fields }
        | fields => return { head with fields := fields.tail }
      let head ← next head
      match (head.fields.headD "").toList with
      | ['-', '-'] =>
          let behind ← next head
          return if behind.fields = [] then none else some behind
      | '-' :: letter :: letters =>
          if (letter :: letters).all (· = 'p') then
            passOver substitute count { head with other := some usualSearchPath }
          else return none
      | _ => return if head.fields = [] then none else some head

/-- Find what the first field of a command is, behind commands that only pass functions
over.  `count` bounds the number of steps. -/
def findHead (substitute : Substitute) : Nat → Head → Action Head
  | 0, head => return head
  | count + 1, head => do
      let name := head.fields.headD ""
      let meaning ← meaningOf head.passesFunctions name
      let found := { head with meaning }
      match meaning, name with
      | .command, "command" =>
          match ← passOver substitute count found with
          | some behind => findHead substitute count { behind with passesFunctions := true }
          | none => return found
      | _, _ => return found

def expandRest (substitute : Substitute) (head : Head) : Action Head := do
  let mut more := []
  for word in head.rest do
    let fields ← if head.assigns && (assignedName? word.beginning).isSome then
        do pure [← expandAssignment substitute word]
      else expandFields substitute word
    more := more ++ fields
  return { head with fields := head.fields ++ more, traced := head.traced ++ more, rest := [] }

def deepestCall : Nat := 1000

/-- Give an assignment that is on a line of its own, or in front of a command.  The result
is the assignment as it is traced. -/
def assignWord (substitute : Substitute) (isOwn exports : Bool) (word : Word) :
    Action String := do
  let text ← expandAssignment substitute word
  let (name, value) := splitAtEquals text
  if isOwn then makeOwn name value true
  else
    assign name (value.getD "")
    if exports then mark exported name
  return text

def writtenName? : Command → Option String
  | .simple _ (word :: _) _ _ =>
      ((Word.text? word).map String.ofList).filter isName
  | _ => none

def lookAhead (command : Command) : Action Unit := do
  if let some name := writtenName? command then
    let _ ← findCommand false none name

/-! ## Carrying out commands -/

def readerOf (text : List Char) : Action Reader := do
  let state ← own id
  return { text, abbreviations := state.abbreviations, nextDocument := state.nextDocument }

/-- Read with the abbreviations that are known now, and keep the documents that are read.
A text of the wrong form is a failure. -/
def readWith {Result : Type} (reading : Reading Result) (reader : Reader) :
    Action (Result × Reader) := do
  let abbreviations ← own Own.abbreviations
  match reading.run { reader with abbreviations, documents := [] } with
  | .ok (result, reader) =>
      change fun state =>
        { state with
          documents := reader.documents ++ state.documents
          nextDocument := reader.nextDocument
          reached := reader.line }
      return (result, reader)
  | .error misfit =>
      change fun state => { state with line := misfit.line }
      fail misfit.message

def absorbLeaving (result : Except Halt Unit) : Except Halt Unit :=
  match result with
  | .error (.leaveFunction _) => .ok ()
  | other => other

/-- What a loop makes of a halt inside of it: whether it goes on, or a halt for what is
around it. -/
def loopMove (result : Except Halt Unit) : Except Halt Bool :=
  match result with
  | .ok () => .ok true
  | .error (.leaveLoop levels) => if levels ≤ 1 then .ok false else .error (.leaveLoop (levels - 1))
  | .error (.nextRound levels) =>
      if levels ≤ 1 then .ok true else .error (.nextRound (levels - 1))
  | .error halt => .error halt

def inLoop (action : Action Unit) : Action Unit := do
  change fun state => { state with loops := state.loops + 1 }
  let result ← action.outcome
  change fun state => { state with loops := state.loops - 1 }
  resume result

def named {Result : Type} (name : String) (action : Action Result) : Action Result := do
  let before ← own Own.within
  change fun state => { state with within := some name }
  let result ← action.outcome
  change fun state => { state with within := before }
  resume result

def setStatus (status : Nat) : Action Unit := change fun state => { state with status }

mutual

def evaluate (execute : Execute) : Nat → Stance → Command → Action Unit
  | 0, _, _ => return ()
  | steps + 1, stance, command => do
      let isSkipped := (← hasOption 'n') || command matches .nothing
      if !isSkipped then
        runTraps execute steps
        evaluateKind execute steps stance command
      runTraps execute steps
      let isChecked := command matches
        .simple _ _ _ _ | .pipe _ _ | .subshell _ _ _ | .background _ _ _
      if isChecked && !isSkipped && !stance.isTested then
        if (← hasOption 'e') && (← own Own.status) ≠ 0 then throw .ended
      if stance.isLast then throw .ended

def evaluateKind (execute : Execute) : Nat → Stance → Command → Action Unit
  | 0, _, _ => return ()
  | steps + 1, stance, command => do
      match command with
      | .nothing => return ()
      | .simple assignments words redirections line =>
          evaluateSimple execute steps stance assignments words redirections line
      | .redirected body redirections line =>
          change fun state => { state with line }
          let substitute := substitute execute steps
          let all ← redirections.mapM (expandRedirection substitute)
          let (kept, isDone) ← leadAll substitute true all []
          let result ← if isDone then (evaluate execute steps stance.inner body).outcome
            else (setStatus 2).outcome
          putBack false kept
          resume result
      | .subshell body redirections line =>
          change fun state => { state with line }
          let substitute := substitute execute steps
          let all ← redirections.mapM (expandRedirection substitute)
          let inside : Action Unit := do
            let (_, isDone) ← leadAll substitute false all []
            if !isDone then throw .failed
            evaluate execute steps { stance with isLast := true } body
          if stance.isLast && !(← hasTraps) then
            change (Own.inherited false)
            inside
          else
            let job ← openJob
            joinJob job (← startProcess false false (concluding execute steps inside))
            setStatus (← finishJob job)
      | .background body redirections line =>
          change fun state => { state with line }
          let substitute := substitute execute steps
          let all ← redirections.mapM (expandRedirection substitute)
          let job ← openJob
          let process ← startProcess true true (concluding execute steps do
            let (_, isDone) ← leadAll substitute false all []
            if !isDone then throw .failed
            evaluate execute steps { isLast := true } body)
          joinJob job process
          change fun state => { state with background := some process, status := 0 }
      | .pipe commands inBackground =>
          let job ← openJob
          evaluatePipe execute steps stance inBackground job none commands
          setStatus (← if inBackground then pure 0 else finishJob job)
      | .both first second =>
          evaluate execute steps { isTested := true } first
          if (← own Own.status) = 0 then evaluate execute steps stance second
      | .either first second =>
          evaluate execute steps { isTested := true } first
          if (← own Own.status) ≠ 0 then evaluate execute steps stance second
      | .sequence first second =>
          evaluate execute steps stance.inner first
          evaluate execute steps stance second
      | .not body =>
          evaluate execute steps { isTested := true } body
          setStatus (truthStatus ((← own Own.status) ≠ 0))
      | .choice condition yes no =>
          evaluate execute steps { isTested := true } condition
          if (← own Own.status) = 0 then evaluate execute steps stance yes
          else
            match no with
            | some other => evaluate execute steps stance other
            | none => setStatus 0
      | .loop untilHolds condition body =>
          inLoop (evaluateLoop execute steps stance.inner untilHolds condition body 0)
      | .each name words body line =>
          change fun state => { state with line }
          let fields ← words.mapM (expandFields (substitute execute steps))
          inLoop (evaluateEach execute steps stance.inner name body 0 fields.flatten)
      | .select subject arms line =>
          change fun state => { state with line }
          let text ← expandText (substitute execute steps) subject
          evaluateArms execute steps stance text.toList arms
      | .define name body =>
          change fun state => { state with functions := place name body state.functions }
          setStatus 0

def evaluateSimple (execute : Execute) : Nat → Stance → List Word → List Word →
    List Redirection → Nat → Action Unit
  | 0, _, _, _, _, _ => return ()
  | steps + 1, stance, assignments, words, redirections, line => do
      change fun state => { state with line, outputStatus := 0 }
      let substitute := substitute execute steps
      let (fields, rest) ← expandSome substitute words
      match fields with
      | [] =>
          let all ← redirections.mapM (expandRedirection substitute)
          let (kept, isDone) ← leadAll substitute true all []
          let result ← Action.outcome do
            if isDone then
              let traced ← assignments.mapM (assignWord substitute false false)
              trace execute steps (formerErrors kept) traced
              Program.pause commandCost
              setStatus (← own Own.outputStatus)
              lookAround
            else setStatus 2
          putBack false kept
          resume result
      | first :: _ =>
          let isSpecial := specialCommands.contains first
          let start : Head := { meaning := .program [], fields, rest, traced := fields }
          let head ← expandRest substitute (← findHead substitute steps start)
          let stays := match head.meaning, head.fields with
            | .command, "exec" :: _ => true
            | _, _ => false
          let body : Action Unit := do
            let all ← redirections.mapM (expandRedirection substitute)
            let (kept, isDone) ← leadAll substitute true all []
            let result ← Action.outcome do
              if isDone then
                let exports := stays && 1 < head.fields.length
                let assigned ← assignments.mapM (assignWord substitute (!isSpecial) exports)
                trace execute steps (formerErrors kept) (assigned ++ head.traced)
                carryOut execute steps stance isSpecial head
              else
                setStatus 2
                if isSpecial then throw .failed
            putBack (stays && result matches .ok ()) kept
            resume result
          if isSpecial then body else withShadows body

def carryOut (execute : Execute) : Nat → Stance → Bool → Head → Action Unit
  | 0, _, _, _ => return ()
  | steps + 1, stance, isSpecial, head => do
      let name := head.fields.headD ""
      let arguments := head.fields.tail
      match head.meaning with
      | .function body => callFunction execute steps stance body arguments
      | .command =>
          Program.pause commandCost
          let action : Action Nat := match name with
            | "eval" => do
                if arguments = [] then return 0
                let text := " ".intercalate arguments
                evaluateText execute steps { isTested := stance.isTested } text.toList
                own Own.status
            | "exec" => do
                match arguments with
                | [] => return 0
                | program :: others =>
                    let listed := (pathsIn (← searchPath) program).map Prod.snd
                    let paths := if '/' ∈ program.toList then [program] else listed
                    become execute paths program others
                    return 0
            | "." => readIn execute steps arguments
            | _ => (builtin? name arguments).getD (return 127)
          match ← (named name action).outcome with
          | .ok status => setStatus status
          | .error .failed => if isSpecial then throw .failed
          | .error halt => throw halt
          lookAround
      | _ =>
          match ← findProgram head.other name with
          | .program paths =>
              if stance.isLast && !(← hasTraps) then become execute paths name arguments
              else
                let job ← openJob
                let state ← own id
                let child : Program Ending := do
                  let status ← (become execute paths name arguments).asProgram state
                  return .exited status
                joinJob job (← Program.fork child)
                setStatus (← finishJob job)
          | .unknown isRefused =>
              complainUnknown name isRefused
              setStatus 127
          | _ => setStatus 127

def callFunction (execute : Execute) : Nat → Stance → Command → List String → Action Unit
  | 0, _, _, _ => return ()
  | steps + 1, stance, body, arguments => do
      let before ← own id
      if deepestCall ≤ before.calls then
        fail ("Maximum function recursion depth (" ++ Text.decimal deepestCall ++ ") reached")
      change fun state =>
        { state with
          arguments, optionIndex := 1, optionPlace := none, loops := 0, calls := state.calls + 1 }
      let result ← (evaluate execute steps stance.inner body).outcome
      change fun state =>
        { state with
          arguments := before.arguments
          optionIndex := before.optionIndex
          optionPlace := before.optionPlace
          loops := before.loops
          calls := before.calls }
      resume (absorbLeaving result)

/-- Carry out the commands of a pipeline from some command on.  `input` is the end to read
from that the command before has left. -/
def evaluatePipe (execute : Execute) : Nat → Stance → Bool → Nat → Option Nat → List Command →
    Action Unit
  | 0, _, _, _, _, _ | _, _, _, _, _, [] => return ()
  | steps + 1, stance, inBackground, job, input, command :: others => do
      lookAhead command
      let ends ← if others = [] then pure none else some <$> Program.pipe
      let process ← startProcess inBackground input.isNone (concluding execute steps do
        if let some (reading, _) := ends then Program.close reading
        if let some before := input then
          if 0 < before then
            let _ ← Program.duplicate before 0
            Program.close before
        if let some (_, writing) := ends then
          if 1 < writing then
            let _ ← Program.duplicate writing 1
            Program.close writing
        evaluate execute steps { stance with isLast := true } command)
      joinJob job process
      if inBackground then change fun state => { state with background := some process }
      if let some before := input then Program.close before
      if let some (_, writing) := ends then Program.close writing
      evaluatePipe execute steps stance inBackground job (ends.map Prod.fst) others

/-- Carry out a loop.  `last` is the status of the last round. -/
def evaluateLoop (execute : Execute) : Nat → Stance → Bool → Command → Command → Nat →
    Action Unit
  | 0, _, _, _, _, _ => return ()
  | steps + 1, stance, untilHolds, condition, body, last => do
      let looked ← (evaluate execute steps { isTested := true } condition).outcome
      match loopMove looked with
      | .error halt => throw halt
      | .ok false => setStatus last
      | .ok true =>
          if looked matches .error _ then
            evaluateLoop execute steps stance untilHolds condition body last
          else if decide ((← own Own.status) = 0) = untilHolds then setStatus last
          else
            let result ← (evaluate execute steps stance body).outcome
            let status ← own Own.status
            match loopMove result with
            | .error halt => throw halt
            | .ok true => evaluateLoop execute steps stance untilHolds condition body status
            | .ok false => return ()

/-- Carry out a loop over fields.  `last` is the status of the last round. -/
def evaluateEach (execute : Execute) : Nat → Stance → String → Command → Nat → List String →
    Action Unit
  | 0, _, _, _, _, _ => return ()
  | _, _, _, _, last, [] => setStatus last
  | steps + 1, stance, name, body, _, field :: others => do
      assign name field
      let result ← (evaluate execute steps stance body).outcome
      match loopMove result with
      | .error halt => throw halt
      | .ok true => evaluateEach execute steps stance name body (← own Own.status) others
      | .ok false => return ()

def evaluateArms (execute : Execute) : Nat → Stance → List Char → List Arm → Action Unit
  | 0, _, _, _ => return ()
  | _, _, _, [] => setStatus 0
  | steps + 1, stance, text, .mk patterns body :: others => do
      if ← matchesAny execute steps text patterns then
        match body with
        | .nothing => setStatus 0
        | body => evaluate execute steps stance body
      else evaluateArms execute steps stance text others

def matchesAny (execute : Execute) : Nat → List Char → List Word → Action Bool
  | 0, _, _ | _, _, [] => return false
  | steps + 1, text, word :: others => do
      let pattern ← expandPattern (substitute execute steps) word
      if pattern.matches text then return true
      matchesAny execute steps text others

def substitute (execute : Execute) : Nat → Command → Action (List Char)
  | 0, _ | _, .nothing => return []
  | steps + 1, command => do
      let (reading, writing) ← Program.pipe
      let job ← openJob
      let process ← startProcess false false (concluding execute steps do
        Program.close reading
        if writing ≠ 1 then
          let _ ← Program.duplicate writing 1
          Program.close writing
        evaluate execute steps { isLast := true } command)
      joinJob job process
      Program.close writing
      let output ← Program.readAll reading Program.manyRounds .empty
      Program.close reading
      let outputStatus ← finishJob job
      change fun state => { state with outputStatus }
      let bytes := match output with
        | .ok bytes => bytes.toList.filter (· ≠ 0)
        | .error _ => []
      return Raw.ofBytes (bytes.reverse.dropWhile (· = 10)).reverse

/-- Carry out commands that end a process, and then what was set for its end. -/
def concluding (execute : Execute) : Nat → Action Unit → Action Unit
  | 0, action => action
  | steps + 1, action => do
      let result ← action.outcome
      let state ← own id
      let status := if result matches .error .exited then state.statusBefore.getD state.status
        else state.status
      change fun state => { state with status, statusBefore := none, loops := 0 }
      match state.traps.lookup endSignal with
      | none => return ()
      | some text =>
          change fun state =>
            { state with
              statusBefore := some status
              traps := state.traps.filter fun (signal, _) => signal ≠ endSignal }
          match ← (evaluateText execute steps {} text.toList).outcome with
          | .error .failed | .error .ended => return ()
          | _ => change fun state => { state with status := state.statusBefore.getD status }

def runTraps (execute : Execute) : Nat → Action Unit
  | 0 => return ()
  | steps + 1 => do
      if (← own Own.traps) = [] then return ()
      match ← Program.takeNoted with
      | [] => return ()
      | noted =>
          let before ← own Own.statusBefore
          let status := before.getD (← own Own.status)
          change fun state => { state with statusBefore := some status }
          runTrapsOf execute steps status (noted.mergeSort fun first second => first ≤ second)
          change fun state => { state with statusBefore := before }

/-- Do what was set for some signals, after each of which the status is as before. -/
def runTrapsOf (execute : Execute) : Nat → Nat → List Nat → Action Unit
  | 0, _, _ | _, _, [] => return ()
  | steps + 1, status, signal :: others => do
      let text := ((← own Own.traps).lookup signal).getD ""
      if text = "" then return ← runTrapsOf execute steps status others
      match ← (evaluateText execute steps {} text.toList).outcome with
      | .ok () =>
          setStatus status
          runTrapsOf execute steps status others
      | .error halt =>
          match halt with
          | .leaveLoop _ | .nextRound _ | .leaveFunction false => setStatus status
          | _ => pure ()
          match halt with
          | .leaveLoop _ | .nextRound _ | .leaveFunction _ =>
              Program.changeSelf fun process => { process with noted := others ++ process.noted }
              change fun state => { state with statusBefore := none }
          | _ => pure ()
          throw halt

def evaluateText (execute : Execute) : Nat → Stance → List Char → Action Unit
  | 0, _, _ => return ()
  | steps + 1, stance, text => do
      let before ← own Own.reached
      let result ← (evaluateFrom execute steps stance false 0 (← readerOf text)).outcome
      change fun state => { state with reached := before }
      resume result

/-- Carry out the commands that are still to be read.  `last` is the status of the
last one, and `shows` tells that lines may be shown as they are read. -/
def evaluateFrom (execute : Execute) : Nat → Stance → Bool → Nat → Reader → Action Unit
  | 0, _, _, _, _ => return ()
  | steps + 1, stance, shows, last, reader => do
      let isShown := shows && (← hasOption 'v')
      let (command, behind) ← readWith Reading.commandLine reader
      if isShown then
        let count := reader.text.length - behind.text.length
        let _ ← writeText 2 (String.ofList (reader.text.take count))
      match command with
      | none => setStatus last
      | some .nothing => evaluateFrom execute steps stance shows last behind
      | some command =>
          evaluate execute steps stance command
          evaluateFrom execute steps stance shows (← own Own.status) behind

def readIn (execute : Execute) : Nat → List String → Action Nat
  | 0, _ => return 0
  | steps + 1, arguments => do
      match ← withoutOptions arguments with
      | [] => return 0
      | name :: _ =>
          let paths ← if '/' ∈ name.toList then pure [name]
            else do
              let listed := (pathsIn (← searchPath) name).map Prod.snd
              Program.askDisk fun disk => listed.filter fun path => disk.isFile (Raw.toText path)
          match paths with
          | [] => fail (name ++ ": not found")
          | path :: _ =>
              let descriptor ← orFail false path (← Program.openToRead path false)
              let content ← Program.readAll descriptor Program.manyRounds .empty
              Program.close descriptor
              let text := match content with
                | .ok bytes => Raw.ofBytes bytes.toList
                | .error _ => []
              let before ← own Own.reached
              let result ← (named path
                (evaluateFrom execute steps {} true 0 (← readerOf text))).outcome
              change fun state => { state with reached := before }
              resume (absorbLeaving result)
              own Own.status

def trace (execute : Execute) : Nat → Nat → List String → Action Unit
  | 0, _, _ => return ()
  | steps + 1, errors, fields => do
      if !(← hasOption 'x') then return ()
      let start := (← valueOf? "PS4").getD ""
      setOption false 'x'
      let (word, _) ← readWith Reading.inQuotes (← readerOf start.toList)
      let shown ← expandDocument (substitute execute steps) word
      setOption true 'x'
      let _ ← writeText errors (shown ++ " ".intercalate fields ++ "\n")

end

end SnippetSandbox.Shell
