/-!
# Emphasis on a terminal

Emphasis is switched on by one control sequence and off by another.
-/

namespace SnippetSandbox.Console

/-- The ways in which text can stand out. -/
inductive Style
  | bold
  | dim
  | red
  | green
  | yellow
  | cyan
  deriving DecidableEq, Repr

/-- The sequence that begins with an escape and ends the list of numbers. -/
def controlSequence (number : String) : String :=
  "\x1b[" ++ number ++ "m"

def Style.number : Style → String
  | .bold => "1"
  | .dim => "2"
  | .red => "31"
  | .green => "32"
  | .yellow => "33"
  | .cyan => "36"

def Style.apply (style : Style) (text : String) : String :=
  controlSequence style.number ++ text ++ controlSequence "0"

end SnippetSandbox.Console
