import SnippetSandbox.Shell.Run

/-!
# Starting a shell

A shell takes its options from its arguments and its variables from its environment.
The script is an argument, a file, or the input.
-/

namespace SnippetSandbox.Shell

open Action FileSystem Kernel Supervision Utility

/-- The variables that every shell knows; they keep their marks when they are removed.
Some have values. -/
def knownVariables : List (String × Option String) :=
  [("HISTSIZE", none), ("TERM", none), ("OPTIND", some "1"), ("PS4", some "+ "),
    ("PS2", some "> "), ("PS1", some "# "), ("PATH", some usualSearchPath), ("MAILPATH", none),
    ("MAIL", none), ("IFS", some usualSeparators)]

def startVariables (environment : List (String × String)) (parent : Nat) :
    List (String × Variable) :=
  let known := knownVariables.map fun (name, value) =>
    (name, ({ value, isFixed := true } : Variable))
  let take (bindings : List (String × Variable)) (item : String × String) :
      List (String × Variable) :=
    if isName item.1 then
      let former := (bindings.lookup item.1).getD {}
      place item.1 { former with value := some item.2, isExported := true } bindings
    else bindings
  let setTo (name value : String) (bindings : List (String × Variable)) :
      List (String × Variable) :=
    place name { (bindings.lookup name).getD {} with value := some value } bindings
  setTo "PPID" (Text.decimal parent)
    (setTo "OPTIND" "1" (setTo "IFS" usualSeparators (environment.foldl take known)))

def findDirectory : Action Unit := do
  let given := (← valueOf? "PWD").getD ""
  let isRight ← Program.askDisk fun disk =>
    Path.isAbsolute given && match disk.find (Raw.toText given) with
      | .ok (.present place .directory) => place = disk.current
      | _ => false
  let path ← if isRight then pure given else physicalPath
  change fun state => { state with directory := path }
  assignExported "PWD" path

/-- What the arguments of a shell ask for. -/
structure Request where
  hasText : Bool := false
  operands : List String := []

/-- Take the letters of options.  The result tells whether the script is an argument, and
what is left of the other arguments. -/
def requestLetters (isOn : Bool) : List Char → List String → Action Request
  | [], operands => return { operands }
  | 'c' :: letters, operands => do
      return { (← requestLetters isOn letters operands) with hasText := true }
  | 'l' :: letters, operands => requestLetters isOn letters operands
  | 'o' :: letters, operands => do
      setNamedOption isOn operands.head?
      requestLetters isOn letters operands.tail
  | letter :: letters, operands => do
      let _ ← setLetters isOn [letter] []
      requestLetters isOn letters operands

/-- Take the options among the arguments of a shell.  `count` bounds the number of
steps. -/
def takeRequest : Nat → List String → Action Request
  | 0, operands => return { operands }
  | _, [] => return {}
  | count + 1, argument :: others => do
      let goOn (isOn : Bool) (letters : List Char) : Action Request := do
        let taken ← requestLetters isOn letters others
        let request ← takeRequest count taken.operands
        return { request with hasText := taken.hasText || request.hasText }
      match argument.toList with
      | ['-'] | ['-', '-'] => return { operands := others }
      | '-' :: letters => goOn true letters
      | '+' :: letters => goOn false letters
      | _ => return { operands := argument :: others }

def manySteps : Nat := 2 ^ 60

def evaluateInput (execute : Execute) (descriptor : Nat) : Action Unit := do
  let text ← match ← Program.readAll descriptor Program.manyRounds .empty with
    | .ok bytes => pure (Raw.ofBytes bytes.toList)
    | .error _ => pure []
  if descriptor ≠ 0 then Program.close descriptor
  evaluateFrom execute manySteps {} true 0 (← readerOf text)

def answer (execute : Execute) (arguments : List String) : Action Unit := do
  findDirectory
  let request ← takeRequest (arguments.length + 1) arguments
  if request.hasText then
    match request.operands with
    | [] => fail "-c requires an argument"
    | text :: others =>
        checkMonitor
        change fun state => { state with name := others.headD state.name }
        setArguments others.tail
        resume (absorbLeaving (← (evaluateText execute manySteps {} text.toList).outcome))
        if ← hasOption 's' then evaluateInput execute 0
  else
    match request.operands, ← hasOption 's' with
    | path :: others, false =>
        let descriptor ← orFail false path (← Program.openToRead path false)
        checkMonitor
        change fun state => { state with name := path }
        setArguments others
        evaluateInput execute descriptor
    | others, _ =>
        setOption true 's'
        checkMonitor
        setArguments others
        evaluateInput execute 0

def shell (execute : Execute) (invocation : Invocation) (environment : List (String × String)) :
    Program Ending := do
  let number ← Program.self
  let parent ← Program.askSelf Process.parent
  let reactions ← Program.askSelf Process.reactions
  let start : Own :=
    { name := invocation.name
      arguments := []
      bindings := startVariables environment parent
      process := number
      line := 0
      deaf := (reactions.filter fun (_, reaction) => reaction = .ignored).map Prod.fst }
  let status ← (concluding execute manySteps (answer execute invocation.arguments)).asProgram start
  return .exited (status % 256)

end SnippetSandbox.Shell
