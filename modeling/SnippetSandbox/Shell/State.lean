import SnippetSandbox.Kernel.Simulation
import SnippetSandbox.Shell.Number
import SnippetSandbox.Shell.Reader

/-!
# The state of a script that runs

A running script has variables, functions, options and arguments of its own, which
a subshell gets a copy of.  What it does may leave it for some other place in the
script: for the end of a loop, of a function, or of the script.
-/

namespace SnippetSandbox.Shell

open FileSystem Kernel Supervision

/-- A variable; it may be marked without having a value. -/
structure Variable where
  value : Option String := none
  isExported : Bool := false
  isConstant : Bool := false
  isFixed : Bool := false
  deriving DecidableEq, Repr

/-- Processes that were started together. -/
structure Job where
  number : Nat
  processes : List Nat := []
  endings : List (Nat × Ending) := []
  isAwaited : Bool := false
  deriving DecidableEq, Repr

def Job.isDone (job : Job) : Bool :=
  job.processes.all fun process => job.endings.any fun (ended, _) => ended = process

def Job.last (job : Job) : Nat := job.processes.getLastD 0

def Job.ending? (job : Job) : Option Ending := job.endings.lookup job.last

/-- Where a program was found. -/
structure Found where
  path : String
  isStale : Bool := false
  deriving DecidableEq, Repr

/-- What belongs to one process. -/
structure Own where
  name : String
  arguments : List String
  bindings : List (String × Variable)
  functions : List (String × Command) := []
  abbreviations : List (String × String) := []
  options : List Char := []
  /-- How the last command ended; zero is success. -/
  status : Nat := 0
  outputStatus : Nat := 0
  process : Nat
  background : Option Nat := none
  line : Nat := 1
  reached : Nat := 1
  within : Option String := none
  /-- How many loops are being carried out. -/
  loops : Nat := 0
  /-- How many functions are being carried out. -/
  calls : Nat := 0
  /-- What the variables were before the command that runs made them its own, the last
  one first; none where no command does so. -/
  shadowed : Option (List (String × Variable)) := none
  /-- What the options were before the function that runs made them its own. -/
  shadowedOptions : Option (List Char) := none
  /-- What to do on a signal or at the end; nothing to do means ignoring it. -/
  traps : List (Nat × String) := []
  deaf : List Nat := []
  /-- The status from before the trap that is being carried out. -/
  statusBefore : Option Nat := none
  jobs : List Job := []
  directory : String := ""
  documents : List (Nat × Word) := []
  nextDocument : Nat := 0
  /-- The argument at which options are looked for next, counted from one. -/
  optionIndex : Nat := 1
  /-- The place in the argument before that at which they are looked for. -/
  optionPlace : Option Nat := none
  found : List (String × Found) := []
  limits : List (Char × String) := []

/-- Why the commands that follow are not carried out. -/
inductive Halt
  | exited
  | ended
  /-- Something failed that was told about; the process ends unless it was a command of
  its own. -/
  | failed
  | leaveLoop (levels : Nat)
  | nextRound (levels : Nat)
  /-- A function is left; `isTold` tells that its status was given. -/
  | leaveFunction (isTold : Bool)
  deriving DecidableEq, Repr

def Action (Result : Type) : Type := Own → (Except Halt Result → Own → Thread) → Thread

namespace Action

instance : Monad Action where
  pure result := fun own next => next (.ok result) own
  bind action rest := fun own next => action own fun
    | .ok result => fun own => rest result own next
    | .error halt => fun own => next (.error halt) own

instance : MonadExceptOf Halt Action where
  throw halt := fun own next => next (.error halt) own
  tryCatch action handle := fun own next => action own fun
    | .ok result => fun own => next (.ok result) own
    | .error halt => fun own => handle halt own next

instance : MonadLift Program Action where
  monadLift program := fun own next => program fun result => next (.ok result) own

def own {Result : Type} (part : Own → Result) : Action Result :=
  fun own next => next (.ok (part own)) own

def change (with' : Own → Own) : Action Unit :=
  fun own next => next (.ok ()) (with' own)

def outcome {Result : Type} (action : Action Result) : Action (Except Halt Result) :=
  fun own next => action own fun result => next (.ok result)

def asProgram (action : Action Unit) (start : Own) : Program Nat := fun next =>
  action start fun _ own => next own.status

end Action

open Action

/-- How long a command takes that the shell carries out itself. -/
def commandCost : Nat := 10000

def hasOption (letter : Char) : Action Bool := own fun state => state.options.contains letter

/-- Write bytes to a descriptor; the result tells whether that was possible. -/
def write (descriptor : Nat) (bytes : ByteArray) : Action Bool := do
  match ← Program.write descriptor bytes with
  | .ok () => return true
  | .error _ => return false

/-- Write a text of bytes to a descriptor. -/
def writeText (descriptor : Nat) (raw : String) : Action Bool :=
  write descriptor (Raw.bytes raw.toList)

def Own.message (state : Own) (text : String) : String :=
  let place := match state.within with
    | some command => command ++ ": "
    | none => ""
  state.name ++ ": " ++ Text.decimal state.line ++ ": " ++ place ++ text ++ "\n"

def complain (text : String) : Action Unit := do
  let _ ← writeText 2 (← own fun state => state.message text)
  return ()

def fail {Result : Type} (text : String) : Action Result := do
  change fun state => { state with status := 2 }
  complain text
  throw .failed

/-- The number that an argument spells; anything else is a failure. -/
def natural (text : String) : Action Nat := do
  match integer? text with
  | some value => if 0 ≤ value && value < 2 ^ 31 then return value.toNat
  | none => pure ()
  fail ("Illegal number: " ++ text)

/-! ## Variables -/

def valueOf? (name : String) : Action (Option String) :=
  own fun state => (state.bindings.lookup name).bind Variable.value

def Own.variableOf (state : Own) (name : String) : Variable :=
  (state.bindings.lookup name).getD {}

def place {Value : Type} (name : String) (value : Value) :
    List (String × Value) → List (String × Value)
  | [] => [(name, value)]
  | (found, former) :: others =>
      if found = name then (name, value) :: others else (found, former) :: place name value others

def Own.set (name : String) (entry : Variable) (state : Own) : Own :=
  { state with bindings := place name entry state.bindings }

def noticeValue (name value : String) : Action Unit := do
  if name = "OPTIND" then
    let index ← natural value
    change fun state =>
      { state with optionIndex := if index = 0 then 1 else index, optionPlace := none }
  if name = "PATH" then change fun state => { state with found := [] }

def store (name value : String) (notices : Bool) : Action Unit := do
  let state ← own id
  let former := state.variableOf name
  if former.isConstant then fail (name ++ ": is read only")
  if notices then noticeValue name value
  let isExported := former.isExported || state.options.contains 'a'
  change (Own.set name { former with value := some value, isExported })

def assign (name value : String) : Action Unit := do
  if !isName name then fail (name ++ ": bad variable name")
  store name value true

def unassign (name : String) : Action Unit := do
  if !isName name then fail (name ++ ": bad variable name")
  let former ← own fun state => state.variableOf name
  if former.isConstant then fail (name ++ ": is read only")
  if (← valueOf? name).isSome then noticeValue name ""
  change fun state =>
    if former.isFixed then state.set name { former with value := none }
    else { state with bindings := state.bindings.filter fun (found, _) => found ≠ name }

def column (columns : Nat) (name : String) : Nat :=
  let first := (name.toList.head?.map Char.toNat).getD 0
  (name.toList.foldl (fun sum next => sum + next.toNat) (16 * first)) % columns

/-- Named things in the order in which a table of so many columns lists them. -/
def tabulated {Value : Type} (columns : Nat) (items : List (String × Value)) :
    List (String × Value) :=
  items.mergeSort fun first second => column columns first.1 ≤ column columns second.1

/-- How many columns the table of variables has. -/
def variableColumns : Nat := 39

def Own.environment (state : Own) : List (String × String) :=
  tabulated variableColumns (state.bindings.filterMap fun (name, entry) =>
    if entry.isExported then entry.value.map fun value => (name, value) else none)

def shadow (name : String) : Action Unit :=
  change fun state =>
    { state with
      shadowed := state.shadowed.map fun names => (name, state.variableOf name) :: names }

def restore (name : String) (former : Variable) : Action Unit := do
  if former = {} then
    if !isName name then fail (name ++ ": bad variable name")
    change fun state =>
      { state with bindings := state.bindings.filter fun (found, _) => found ≠ name }
  else
    noticeValue name (former.value.getD "")
    change (Own.set name former)

def resume {Result : Type} : Except Halt Result → Action Result
  | .ok result => return result
  | .error halt => throw halt

/-- Carry out something that may make variables and options its own, and forget them
then. -/
def withShadows {Result : Type} (action : Action Result) : Action Result := do
  let before ← own id
  change fun state => { state with shadowed := some [], shadowedOptions := none }
  let result ← action.outcome
  for (name, former) in ((← own Own.shadowed).getD []) do restore name former
  change fun state =>
    { state with
      shadowed := before.shadowed
      options := state.shadowedOptions.getD state.options
      shadowedOptions := before.shadowedOptions }
  resume result

end SnippetSandbox.Shell
