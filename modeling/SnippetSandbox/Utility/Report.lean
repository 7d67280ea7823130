import SnippetSandbox.Kernel.Program
import SnippetSandbox.Utility.Image
import SnippetSandbox.Utility.Options

/-!
# What programs report

A program writes its output in one go when it is done, unless there may be too much of
it.  What it complains about is written at once, behind the program's name, but after the
output so far.
-/

namespace SnippetSandbox.Utility

open FileSystem Kernel

def describeCause : Cause → String
  | .system number => Cause.description number
  | cause => cause.message

def complain (program message : String) : Program Unit := do
  let _ ← Program.writeText 2 (program ++ ": " ++ message ++ "\n")
  return ()

/-- Point to the help of a program, and give the status for its wrong use. -/
def pointToHelp (program : String) (status : Nat) : Program Nat := do
  let _ ← Program.writeText 2
    ("Try '" ++ program ++ " --help' for more information.\n")
  return status

def misuse (program message : String) (status : Nat) : Program Nat := do
  complain program message
  pointToHelp program status

/-- What has come of a part of the work. -/
structure Report where
  output : String := ""
  status : Nat := 0
  unwritten : Option Cause := none

def Report.add (text : String) (report : Report) : Report :=
  { report with output := report.output ++ text }

def Report.failed (status : Nat) (report : Report) : Report :=
  { report with status := max status report.status }

/-- Write output; the result is the cause if that is not possible. -/
def writeOut (text : String) : Program (Option Cause) := do
  if text = "" then return none
  match ← Program.writeText 1 text with
  | .ok () => return none
  | .error cause => return some cause

def complainUnwritten (program : String) (cause : Cause) : Program Unit :=
  complain program ("write error: " ++ describeCause cause)

def Report.flush (report : Report) : Program Report := do
  match ← writeOut report.output with
  | none => return { report with output := "" }
  | some cause => return { report with output := "", unwritten := some cause }

/-- Write what a report holds.  `failure` is the status when that is not possible. -/
def Report.finish (program : String) (failure : Nat) (report : Report) : Program Nat := do
  match (← report.flush).unwritten with
  | none => return report.status
  | some cause =>
      complainUnwritten program cause
      return failure

/-- Take the arguments of a program apart and go on, unless they are wrong.  `status` is
the one for wrong use. -/
def withOptions (program : String) (status : Nat) (forms : List OptionForm)
    (arguments : List String) (goOn : TakenApart → Program Nat) : Program Nat := do
  match takeApart forms true (argumentSteps arguments) [] arguments with
  | .ok taken => goOn taken
  | .error problem => misuse program problem status

def withLeadingOptions (program : String) (status : Nat) (forms : List OptionForm)
    (arguments : List String) (goOn : TakenApart → Program Nat) : Program Nat := do
  match takeApart forms false (argumentSteps arguments) [] arguments with
  | .ok taken => goOn taken
  | .error problem => misuse program problem status

def missingOperand (program : String) (operands : List String) : Program Nat :=
  misuse program (match operands.getLast? with
    | none => "missing operand"
    | some last => "missing operand after " ++ quoteText last) 1

def extraOperand (program operand : String) : Program Nat :=
  misuse program ("extra operand " ++ quoteText operand) 1

/-! ## Work on several operands -/

/-- Work of which some parts may fail while the others go on. -/
abbrev Work := StateT Report Program

namespace Work

def say (text : String) : Work Unit := modify (·.add text)

def warn (program message : String) : Work Unit := do
  set (← (← get).flush)
  complain program message

def refuse (program message : String) (status : Nat) : Work Unit := do
  warn program message
  modify (·.failed status)

/-- Do all of the work and write the output.  `failure` is the status when that is not
possible. -/
def finish (program : String) (failure : Nat) (work : Work Unit) : Program Nat := do
  let ((), report) ← work.run {}
  report.finish program failure

end Work

def wrongChoice (program option argument : String) (choices : List (List String)) :
    Program Nat := do
  complain program ("invalid argument " ++ quoteText argument ++ " for '" ++ option ++ "'")
  let shown (words : List String) : String :=
    "  - " ++ ", ".intercalate (words.map quoteText) ++ "\n"
  let _ ← Program.writeText 2 ("Valid arguments are:\n" ++ String.join (choices.map shown))
  pointToHelp program 1

/-- The first of the words that an option takes of which an argument is the start, if only
one list of words is meant. -/
def choice? (argument : String) (choices : List (List String)) : Option String :=
  match choices.find? fun words => words.contains argument with
  | some words => words.head?
  | none =>
      match choices.filter fun words => words.any fun word => word.startsWith argument with
      | [words] => words.head?
      | _ => none

/-- Ask a question on the error output; the answer is a line of the input, which means
yes if it begins so. -/
def confirm (program question : String) : Program Bool := do
  let _ ← Program.writeText 2 (program ++ ": " ++ question ++ "? ")
  let line ← readLine Program.manyRounds
  return line.head?.any fun letter => letter = 'y' || letter = 'Y'
where
  readLine : Nat → Program (List Char)
    | 0 => return []
    | rounds + 1 => do
        match ← Program.read 0 1 with
        | .error _ => return []
        | .ok bytes =>
            match Raw.ofBytes bytes.toList with
            | [] | ['\n'] => return []
            | characters => return characters ++ (← readLine rounds)

def confirmIf (asks : Bool) (program question : String) : Program Bool :=
  if asks then confirm program question else return true

/-! ## Input -/

/-- How much is read at once. -/
def blockSize : Nat := 65536

/-- Open a file to read from; a minus sign stands for the input. -/
def openInput (name : String) : Program (Except Cause Nat) :=
  if name = "-" then return .ok 0 else Program.openToRead name false

def closeInput (name : String) (descriptor : Nat) : Program Unit :=
  if name = "-" then return () else Program.close descriptor

/-- Complain if the input was read but there is none; it goes by a label then. -/
def closeReadInput (program label : String) (names : List String) : Work Unit := do
  let isThere ← Program.isOpen 0
  if names.contains "-" && !isThere then
    Work.refuse program (label ++ ": " ++ describeCause Program.badDescriptor) 1

/-- All bytes of a file. -/
def readInput (name : String) : Program (Except Cause (List Char)) := do
  match ← openInput name with
  | .error cause => return .error cause
  | .ok descriptor =>
      let content ← Program.readAll descriptor Program.manyRounds .empty
      closeInput name descriptor
      return content.map fun bytes => Raw.ofBytes bytes.toList

def linesOf (text : List Char) : List (List Char) :=
  (text.foldr
    (fun character lines =>
      match character, lines with
      | '\n', lines => ['\n'] :: lines
      | character, [] => [[character]]
      | character, first :: others => (character :: first) :: others)
    [])

def digits? (text : List Char) : Option Nat :=
  if text ≠ [] && text.all Char.isDigit then some (Text.number text) else none

end SnippetSandbox.Utility
