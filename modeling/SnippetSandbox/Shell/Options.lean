import SnippetSandbox.Shell.Expand

/-!
# Options

Commands take options in front of their arguments: letters behind a minus sign,
some of which take an argument themselves.  The ways in which a script works are
options too, which it can set and show.
-/

namespace SnippetSandbox.Shell

open Action

/-- Options with their arguments, and what follows them. -/
abbrev Given := List (Char × String) × List String

/-- The options that letters and further arguments spell.  `known` lists the letters,
each with a colon behind it if it takes an argument.  `count` bounds the number of
steps. -/
def splitOptions (known : List Char) : Nat → List Char → List String → Except String Given
  | 0, _, arguments => .ok ([], arguments)
  | count + 1, [], arguments =>
      match arguments with
      | [] => .ok ([], [])
      | "--" :: others => .ok ([], others)
      | argument :: others =>
          match argument.toList with
          | '-' :: letter :: letters => splitOptions known count (letter :: letters) others
          | _ => .ok ([], argument :: others)
  | count + 1, letter :: letters, arguments => do
      match known.dropWhile (· ≠ letter) with
      | [] => .error ("Illegal option -" ++ letter.toString)
      | _ :: ':' :: _ =>
          match letters, arguments with
          | [], [] => .error ("No arg for -" ++ letter.toString ++ " option")
          | [], argument :: others => do
              let (options, rest) ← splitOptions known count [] others
              return ((letter, argument) :: options, rest)
          | _, _ => do
              let (options, rest) ← splitOptions known count [] arguments
              return ((letter, String.ofList letters) :: options, rest)
      | _ => do
          let (options, rest) ← splitOptions known count letters arguments
          return ((letter, "") :: options, rest)

def letterCount (arguments : List String) : Nat :=
  (arguments.map fun argument => argument.length + 2).sum + 1

/-- The options of a command, and its arguments; an unknown one is a failure. -/
def takeOptions (known : String) (arguments : List String) : Action Given :=
  match splitOptions known.toList (letterCount arguments) [] arguments with
  | .ok given => return given
  | .error problem => fail problem

def withoutOptions (arguments : List String) : Action (List String) := do
  return (← takeOptions "" arguments).2

/-- Write a text to the output for the command that runs; the status tells whether
that was possible. -/
def put (text : String) : Action Nat := do
  if ← writeText 1 text then return 0
  complain (((← own Own.within).getD "") ++ ": I/O error")
  return 1

def putLines (lines : List String) : Action Nat :=
  if lines = [] then return 0 else put (String.join (lines.map fun line => line ++ "\n"))

def quotedText (text : String) : String :=
  let rec parts : Nat → List Char → String
    | 0, _ => ""
    | count + 1, text =>
        let plain := text.takeWhile (· ≠ '\'')
        let rest := text.drop plain.length
        let quotes := rest.takeWhile (· = '\'')
        let shown := "'" ++ String.ofList plain ++ "'"
        if quotes = [] then shown
        else
          let quoted := shown ++ "\"" ++ String.ofList quotes ++ "\""
          let behind := rest.drop quotes.length
          if behind = [] then quoted else quoted ++ parts count behind
  parts (text.length + 1) text.toList

/-! ## Ways to work -/

def setOption (isOn : Bool) (letter : Char) : Action Unit :=
  change fun state =>
    let others := state.options.filter fun other =>
      other ≠ letter && !(isOn && letter = 'V' && other = 'E') &&
        !(isOn && letter = 'E' && other = 'V')
    { state with options := if isOn then letter :: others else others }

def checkMonitor : Action Unit := do
  if ← hasOption 'm' then
    setOption false 'm'
    complain "can't access tty; job control turned off"

def showOptions (isOn : Bool) : Action Unit := do
  let options ← own Own.options
  let lines := optionLetters.map fun (name, letter) =>
    if isOn then
      let blanks := String.ofList (List.replicate (16 - name.length) ' ')
      name ++ blanks ++ if options.contains letter then "on" else "off"
    else "set " ++ (if options.contains letter then "-o " else "+o ") ++ name
  let _ ← putLines (if isOn then "Current option settings" :: lines else lines)

def setNamedOption (isOn : Bool) (name : Option String) : Action Unit := do
  match name with
  | none => showOptions isOn
  | some name =>
      match optionLetters.lookup name with
      | some letter => setOption isOn letter
      | none => fail ("Illegal option -o " ++ name)

/-- Set the ways that letters stand for, with the arguments that long names may be
taken from.  The result is what is left of them. -/
def setLetters (isOn : Bool) : List Char → List String → Action (List String)
  | [], arguments => return arguments
  | 'o' :: letters, arguments => do
      setNamedOption isOn arguments.head?
      setLetters isOn letters arguments.tail
  | letter :: letters, arguments => do
      if letter = '\x00' || !optionLetters.any fun (_, known) => known = letter then
        fail ("Illegal option -" ++ letter.toString)
      setOption isOn letter
      setLetters isOn letters arguments

def setArguments (arguments : List String) : Action Unit :=
  change fun state => { state with arguments, optionIndex := 1, optionPlace := none }

/-- Set ways to work and arguments.  `count` bounds the number of steps. -/
def setAll : Nat → List String → Action Unit
  | 0, _ | _, [] => return ()
  | count + 1, argument :: others => do
      match argument.toList with
      | ['-'] =>
          setOption false 'x'
          setOption false 'v'
          if others ≠ [] then setArguments others
      | ['-', '-'] => setArguments others
      | '-' :: letters => setAll count (← setLetters true letters others)
      | '+' :: letters => setAll count (← setLetters false letters others)
      | _ => setArguments (argument :: others)

def showAssignments : Action Nat := do
  let bindings ← own Own.bindings
  let shown := bindings.filterMap fun (name, entry) =>
    entry.value.map fun value => (name, name ++ "=" ++ quotedText value)
  let sorted := shown.mergeSort fun first second => decide (first.1 ≤ second.1)
  putLines (sorted.map Prod.snd)

/-- Set ways to work and arguments; without any, show the variables. -/
def set (arguments : List String) : Action Nat := do
  if arguments = [] then return ← showAssignments
  setAll (arguments.length + 1) arguments
  checkMonitor
  return 0

end SnippetSandbox.Shell
