import SnippetSandbox.Shell.Format
import SnippetSandbox.Utility.PathName
import SnippetSandbox.Utility.Report

/-!
# Programs that work on words

Some programs do no more than write what their arguments ask for, or tell it by their
status.
-/

namespace SnippetSandbox.Utility

open FileSystem Kernel Shell

/-! ## Writing words -/

/-- What an escape stands for, behind its backslash, and what follows it; none when
the output ends there. -/
def takeEchoEscape (text : List Char) : Option (List Char × List Char) :=
  match text with
  | 'c' :: _ => none
  | 'x' :: rest =>
      let digits := (rest.take 2).takeWhile isHex
      if digits = [] then some (['\\', 'x'], rest)
      else some ([Char.ofNat (hexadecimalValue digits % 256)], rest.drop digits.length)
  | '0' :: rest =>
      let digits := takeOctal rest
      some ([octalByte digits], rest.drop digits.length)
  | other =>
      let (character, rest) := takeEscape other
      some ([character], rest)

/-- A text with its escapes carried out, and whether the output goes on behind it.
`count` bounds the number of steps. -/
def withEscapes : Nat → List Char → List Char × Bool
  | 0, _ | _, [] => ([], true)
  | count + 1, '\\' :: rest =>
      match takeEchoEscape rest with
      | none => ([], false)
      | some (shown, behind) =>
          let (others, goesOn) := withEscapes count behind
          (shown ++ others, goesOn)
  | count + 1, character :: rest =>
      let (others, goesOn) := withEscapes count rest
      (character :: others, goesOn)

def echoWords (program : String) (arguments : List String) : Program Nat :=
  let isOption (argument : String) : Bool := match argument.toList with
    | '-' :: letter :: letters => (letter :: letters).all "neE".toList.contains
    | _ => false
  let letters := (arguments.takeWhile isOption).flatMap fun argument => argument.toList.tail
  let escapes := (letters.filter (· ≠ 'n')).getLast? = some 'e'
  let text := (" ".intercalate (arguments.dropWhile isOption)).toList
  let (shown, goesOn) := if escapes then withEscapes text.length text else (text, true)
  let ended := if goesOn && !letters.contains 'n' then shown ++ ['\n'] else shown
  Report.finish program 1 { output := String.ofList ended }

/-! ## Names in paths -/

/-- Lines with line ends, or with bytes that are zero. -/
def ended (isNul : Bool) (lines : List String) : String :=
  String.join (lines.map fun line => line ++ if isNul then "\x00" else "\n")

def writeLastNames (program : String) (arguments : List String) : Program Nat :=
  let forms : List OptionForm :=
    [{ letter := 'a', word := "multiple" }, { letter := 's', word := "suffix", taking := .required },
      { letter := 'z', word := "zero" }]
  withLeadingOptions program 1 forms arguments fun taken => do
    let shown (ending : String) (paths : List String) : Program Nat :=
      Report.finish program 1
        { output := ended (taken.has 'z')
            (paths.map fun path => withoutEnding ending (lastName path)) }
    if taken.has 'a' || taken.has 's' then
      if taken.operands = [] then missingOperand program []
      else shown ((taken.argument? 's').getD "") taken.operands
    else
      match taken.operands with
      | [] => missingOperand program []
      | [path] => shown "" [path]
      | [path, ending] => shown ending [path]
      | _ :: _ :: third :: _ => extraOperand program third

def writeDirectoryNames (program : String) (arguments : List String) : Program Nat :=
  withLeadingOptions program 1 [{ letter := 'z', word := "zero" }] arguments fun taken =>
    if taken.operands = [] then missingOperand program []
    else
      Report.finish program 1
        { output := ended (taken.has 'z') (taken.operands.map directoryName) }

/-! ## What surrounds a program -/

def writeDirectory (program : String) (environment : List (String × String))
    (arguments : List String) : Program Nat :=
  let forms : List OptionForm :=
    [{ letter := 'L', word := "logical" }, { letter := 'P', word := "physical" }]
  withLeadingOptions program 1 forms arguments fun taken => do
    if taken.operands ≠ [] then complain program "ignoring non-option arguments"
    let given := (environment.lookup "PWD").getD ""
    let path ← Program.askDisk fun disk =>
      let physical := Raw.ofText (Place.path disk.current)
      let isRight := taken.last? ['L', 'P'] = some 'L' && Path.isAbsolute given &&
        !(Path.segments given).any (fun name => name = "." || name = "..") &&
        (disk.canonical (Raw.toText given)).toOption = some (Place.path disk.current)
      if isRight then given else physical
    Report.finish program 1 { output := path ++ "\n" }

def writeVariables (program : String) (environment : List (String × String))
    (arguments : List String) : Program Nat :=
  withLeadingOptions program 2 [{ letter := '0', word := "null" }] arguments fun taken =>
    let isNul := taken.has '0'
    match taken.operands with
    | [] =>
        Report.finish program 2
          { output := ended isNul (environment.map fun (name, value) => name ++ "=" ++ value) }
    | names =>
        let values := names.filterMap fun name => environment.lookup name
        Report.finish program 2
          { output := ended isNul values
            status := if values.length = names.length then 0 else 1 }

/-- The parts of the system's name by the letters and words that ask for them. -/
def systemNames : List (Char × String × String) :=
  [('s', "kernel-name", "Linux"), ('n', "nodename", "localhost"),
    ('r', "kernel-release", "6.1.0"), ('v', "kernel-version", "#1 SMP"),
    ('m', "machine", "x86_64"), ('p', "processor", "unknown"),
    ('i', "hardware-platform", "unknown"), ('o', "operating-system", "GNU/Linux")]

def writeSystemName (program : String) (arguments : List String) : Program Nat :=
  let forms : List OptionForm := { letter := 'a', word := "all" } ::
    systemNames.map fun (letter, word, _) => { letter, word }
  withOptions program 1 forms arguments fun taken =>
    match taken.operands with
    | operand :: _ => extraOperand program operand
    | [] =>
        let isWanted (letter : Char) (value : String) : Bool :=
          if taken.has 'a' then value ≠ "unknown"
          else taken.has letter || (letter = 's' && taken.options.isEmpty)
        let shown := systemNames.filterMap fun (letter, _, value) =>
          if isWanted letter value then some value else none
        Report.finish program 1 { output := " ".intercalate shown ++ "\n" }

/-- The paths of a program in a search path, of which all are wanted or the first. -/
def programsFound (disk : Disk) (searchPath name : String) : List String :=
  let isProgram (path : String) : Bool := disk.isExecutable (Raw.toText path)
  if '/' ∈ name.toList then [name].filter isProgram
  else
    ((Text.splitOn ':' searchPath.toList).map fun entry =>
      (if entry = [] then "." else String.ofList entry) ++ "/" ++ name).filter isProgram

def writePrograms (program : String) (environment : List (String × String))
    (arguments : List String) : Program Nat := do
  match takeApart (letterForms "as") false (argumentSteps arguments) [] arguments with
  | .error problem =>
      let letter := String.ofList ((problem.toList.reverse.drop 1).take 1)
      let _ ← Program.writeText 2 ("Illegal option -" ++ letter ++ "\n")
      Report.finish program 2 { output := "Usage: " ++ program ++ " [-as] args\n", status := 2 }
  | .ok taken =>
      let searchPath := (environment.lookup "PATH").getD ""
      let found ← Program.askDisk fun disk => taken.operands.map (programsFound disk searchPath)
      let shown := if taken.has 'a' then found.flatten else found.flatMap (·.take 1)
      Report.finish program 1
        { output := if taken.has 's' then "" else ended false shown
          status := if found = [] || found.contains [] then 1 else 0 }

/-! ## Time -/

/-- How many nanoseconds a text asks to wait: a number of seconds, or of other units
whose letter stands behind it. -/
def waitingTime? (text : String) : Option Nat :=
  let characters := text.toList.dropWhile isSpace
  let (sign, written) := takeSign characters
  match Decimal.Double.read? (sign < 0) written with
  | none => none
  | some (value, _, rest) =>
      let unit : Option Nat := match rest with
        | [] | ['s'] => some 1
        | ['m'] => some 60
        | ['h'] => some 3600
        | ['d'] => some 86400
        | _ => none
      match value, unit with
      | .finite binary, some unit =>
          let (numerator, denominator) := binary.quotient
          if binary.negative && binary.significand ≠ 0 then none
          else some (numerator * unit * Time.Span.perSecond / denominator)
      | .infinite false, some _ => some (2 ^ 80)
      | _, _ => none

def waitLong (program : String) (arguments : List String) : Program Nat :=
  withLeadingOptions program 1 [] arguments fun taken => do
    if taken.operands = [] then return ← missingOperand program []
    let wrong := taken.operands.filter fun operand => (waitingTime? operand).isNone
    for operand in wrong do complain program ("invalid time interval " ++ quoteText operand)
    if wrong ≠ [] then return ← pointToHelp program 1
    Program.pause (taken.operands.filterMap waitingTime?).sum
    return 0

end SnippetSandbox.Utility
