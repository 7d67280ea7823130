import SnippetSandbox.Shell.Options

/-!
# Names

Variables are marked, made the own ones of a function, and removed; words are made
abbreviations of texts; arguments are shifted to other numbers.
-/

namespace SnippetSandbox.Shell

open Action

/-! ## Variables -/

def mark (with' : Variable → Variable) (name : String) : Action Unit :=
  change fun state => state.set name (with' (state.variableOf name))

def exported (entry : Variable) : Variable := { entry with isExported := true }

def constant (entry : Variable) : Variable := { entry with isConstant := true }

/-- Make a variable the own one of what runs.  It keeps its value unless another one is
given. -/
def makeOwn (name : String) (value : Option String) (exports : Bool) : Action Unit := do
  let known ← own fun state => state.bindings.lookup name
  if known.isNone && value.isNone && !isName name then fail (name ++ ": bad variable name")
  shadow name
  mark (fun entry => { entry with isFixed := true }) name
  if let some value := value then store name value true
  if exports || (← hasOption 'a') && (known.isNone || value.isSome) then mark exported name

/-- A word as a name and what is behind the equals sign, if there is one behind its
first character. -/
def splitAssignment (word : String) : String × Option String :=
  match word.toList with
  | [] => ("", none)
  | first :: rest =>
      let name := rest.takeWhile (· ≠ '=')
      match rest.drop name.length with
      | [] => (word, none)
      | _ :: value => (String.ofList (first :: name), some (String.ofList value))

/-- A word as a name and what is behind the first equals sign, if there is one. -/
def splitAtEquals (word : String) : String × Option String :=
  if word.startsWith "=" then ("", some (String.ofList (word.toList.drop 1)))
  else splitAssignment word

def showMarked (command : String) (isMarked : Variable → Bool) : Action Nat := do
  let bindings ← own Own.bindings
  let marked := bindings.filter fun (_, entry) => isMarked entry
  let sorted := marked.mergeSort fun first second => decide (first.1 ≤ second.1)
  putLines (sorted.map fun (name, entry) =>
    command ++ " " ++ name ++ match entry.value with
      | some value => "=" ++ quotedText value
      | none => "")

def markAll (command : String) (with' : Variable → Variable) (isMarked : Variable → Bool)
    (arguments : List String) : Action Nat := do
  let (options, words) ← takeOptions "p" arguments
  if options ≠ [] || words = [] then return ← showMarked command isMarked
  for word in words do
    match splitAtEquals word with
    | (name, some value) => assign name value
    | (name, none) =>
        if (← own fun state => state.bindings.lookup name).isNone && !isName name then
          fail (name ++ ": bad variable name")
    mark with' (splitAtEquals word).1
  return 0

def makeLocal (arguments : List String) : Action Nat := do
  if (← own Own.shadowed).isNone then fail "not in a function"
  for word in arguments do
    if word = "-" then
      change fun state =>
        { state with shadowedOptions := state.shadowedOptions.or (some state.options) }
    else
      let (name, value) := splitAtEquals word
      makeOwn name value false
  return 0

def unset (arguments : List String) : Action Nat := do
  let (options, names) ← takeOptions "vf" arguments
  for name in names do
    if options.getLast?.any fun (letter, _) => letter = 'f' then
      change fun state =>
        { state with functions := state.functions.filter fun (found, _) => found ≠ name }
    else unassign name
  return 0

/-! ## Abbreviations -/

/-- How many columns the table of abbreviations has. -/
def abbreviationColumns : Nat := 39

def shownAbbreviation (name text : String) : String := name ++ "=" ++ quotedText text

def complainPlainly (text : String) : Action Unit := do
  let _ ← writeText 2 (text ++ "\n")
  return ()

def abbreviate (arguments : List String) : Action Nat := do
  if arguments = [] then
    let known ← own Own.abbreviations
    return ← putLines ((tabulated abbreviationColumns known).map fun (name, text) =>
      shownAbbreviation name text)
  let mut status := 0
  let mut shown := []
  for word in arguments do
    match splitAssignment word with
    | (name, some text) =>
        change fun state => { state with abbreviations := place name text state.abbreviations }
    | (name, none) =>
        match ← own fun state => state.abbreviations.lookup name with
        | some text => shown := shown ++ [shownAbbreviation name text]
        | none =>
            complainPlainly ("alias: " ++ name ++ " not found")
            status := 1
  let written ← putLines shown
  return max status written

def removeAbbreviations (arguments : List String) : Action Nat := do
  let (options, names) ← takeOptions "a" arguments
  if options ≠ [] then
    change fun state => { state with abbreviations := [] }
    return 0
  let mut status := 0
  for name in names do
    if (← own fun state => state.abbreviations.lookup name).isSome then
      change fun state =>
        { state with abbreviations := state.abbreviations.filter fun (found, _) => found ≠ name }
    else
      complainPlainly ("unalias: " ++ name ++ " not found")
      status := 1
  return status

/-! ## Arguments -/

def shiftArguments (arguments : List String) : Action Nat := do
  let count ← match arguments with
    | [] => pure 1
    | word :: _ => natural word
  let held ← own Own.arguments
  if held.length < count then fail "can't shift that many"
  setArguments (held.drop count)
  return 0

end SnippetSandbox.Shell
