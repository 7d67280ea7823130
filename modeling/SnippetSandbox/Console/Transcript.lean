import SnippetSandbox.Console.Style
import SnippetSandbox.Run.Event
import SnippetSandbox.Text.Lines

/-!
# What a command leaves on the terminal

A command writes to two outputs and ends with a code.  How long it took is only
known afterwards, so its place in the output is kept open.
-/

namespace SnippetSandbox.Console

open Run

/-- A part of the output. -/
inductive Shown
  | text (characters : String)
  /-- How many seconds the command took. -/
  | seconds
  deriving DecidableEq, Repr

/-- Everything a command leaves behind. -/
structure Transcript where
  output : List Shown := []
  errors : String := ""
  code : Nat := 0
  deriving DecidableEq, Repr

def Transcript.outputText (transcript : Transcript) (seconds : String) : String :=
  String.join (transcript.output.map fun
    | .text characters => characters
    | .seconds => seconds)

def line (text : String) : Shown := .text (text ++ "\n")

/-- What the output shows of something told; progress can be kept quiet. -/
def shownNotice (quiet : Bool) : Notice → List Shown
  | .progress text => if quiet then [] else [line (Style.dim.apply ("  " ++ text))]
  | .trouble _ => []
  | .navigation (some member) =>
      [line (Style.green.apply "Compiled:" ++ " " ++ Style.bold.apply member.signature)]
  | .navigation none => [line (Style.yellow.apply "No compiled member found")]

def noticeErrors : Notice → String
  | .trouble text =>
      Style.red.apply "Error:" ++ "\n" ++
        String.join ((Text.lines text.toList).map fun line =>
          "    " ++ String.ofList line ++ "\n")
  | .progress _ | .navigation _ => ""

def notices (events : List Event) : List Notice :=
  events.filterMap fun
    | .told notice => some notice
    | _ => none

end SnippetSandbox.Console
