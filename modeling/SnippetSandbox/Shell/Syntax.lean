/-!
# The form of scripts

A script is a tree of commands.  The words in it are lists of pieces: characters,
marks where quotes open and close, and places where something is put in.  A
character in quotes is protected, which means that it stands for itself.
-/

namespace SnippetSandbox.Shell

/-- What is put in for a parameter. -/
inductive Form
  | plain
  | orWord
  | withWord
  /-- Its value; without one, the script ends. -/
  | orFail
  | orAssign
  | withoutEnd (longest : Bool)
  | withoutStart (longest : Bool)
  | length
  | senseless
  deriving DecidableEq, Repr

mutual

/-- A part of a word. -/
inductive Piece
  | character (character : Char) (isProtected : Bool)
  | mark
  /-- The value of a parameter.  With `nonempty`, an empty value counts as none. -/
  | value (name : String) (form : Form) (nonempty : Bool) (word : List Piece)
  | output (commands : Command)
  | arithmetic (expression : List Piece)

/-- What a redirection does. -/
inductive Target
  /-- Write to a file.  With `always`, one that is there may lose its content. -/
  | write (path : List Piece) (always : Bool)
  | extend (path : List Piece)
  | read (path : List Piece)
  | readAndWrite (path : List Piece)
  /-- Lead where another descriptor leads; none closes. -/
  | descriptor (number : Option Nat)
  | descriptorOf (word : List Piece)
  | document (number : Nat)

/-- A descriptor with what it is led to. -/
inductive Redirection
  | mk (descriptor : Nat) (target : Target)

/-- A command, with the line that messages about it name. -/
inductive Command
  | nothing
  | simple (assignments words : List (List Piece)) (redirections : List Redirection) (line : Nat)
  | redirected (body : Command) (redirections : List Redirection) (line : Nat)
  | subshell (body : Command) (redirections : List Redirection) (line : Nat)
  | background (body : Command) (redirections : List Redirection) (line : Nat)
  | pipe (commands : List Command) (inBackground : Bool)
  | both (first second : Command)
  | either (first second : Command)
  | sequence (first second : Command)
  | not (body : Command)
  | choice (condition yes : Command) (no : Option Command)
  /-- A loop that goes on while its condition holds, or until it does. -/
  | loop (untilHolds : Bool) (condition body : Command)
  | each (name : String) (words : List (List Piece)) (body : Command) (line : Nat)
  | select (subject : List Piece) (arms : List Arm) (line : Nat)
  | define (name : String) (body : Command)

/-- An arm of a selection: its patterns and what is done. -/
inductive Arm
  | mk (patterns : List (List Piece)) (body : Command)

end

instance : Inhabited Command := ⟨.nothing⟩

/-- A word in its written form. -/
abbrev Word := List Piece

/-- The commands that belong to the language: their failures end a script, and the
variables set for them stay set. -/
def specialCommands : List String :=
  [":", ".", "break", "continue", "eval", "exec", "exit", "export", "local", "readonly", "return",
    "set", "shift", "times", "trap", "unset"]

def beginsName (character : Char) : Bool :=
  character.isAlpha || character = '_'

def continuesName (character : Char) : Bool :=
  character.isAlphanum || character = '_'

def isSpecialParameter (character : Char) : Bool :=
  "@*#?$!-".toList.contains character || character.isDigit

def isName (text : String) : Bool :=
  match text.toList with
  | [] => false
  | first :: rest => beginsName first && rest.all continuesName

def assignedName? (text : List Char) : Option String :=
  let name := text.takeWhile continuesName
  if isName (String.ofList name) && (text.drop name.length).head? = some '=' then
    some (String.ofList name)
  else none

/-- The characters in front of a word's first piece of another kind, which stand for
themselves as long as they are not protected. -/
def Word.beginning : Word → List Char
  | .character character false :: others => character :: Word.beginning others
  | _ => []

def Word.text? : Word → Option (List Char)
  | [] => some []
  | .character character false :: others => (Word.text? others).map (character :: ·)
  | _ => none

end SnippetSandbox.Shell
