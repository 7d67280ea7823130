import SnippetSandbox.Shell.Options

/-!
# Taking things apart

A line of the input is broken up into the values of variables, and arguments are
searched for options, one at each call.
-/

namespace SnippetSandbox.Shell

open Action Kernel

/-! ## Lines -/

/-- What has been read of a line. -/
structure LineParts where
  parts : List Part := []
  /-- The glyphs of the part that is not, the last one first. -/
  current : List Glyph := []
  isEscaped : Bool := false

namespace LineParts

def complete (line : LineParts) : LineParts :=
  { line with parts := .loose false line.current.reverse :: line.parts, current := [] }

/-- Add a character that stands behind a backslash; a line end there is dropped. -/
def addEscaped (character : Char) (line : LineParts) : LineParts :=
  let completed := { line.complete with isEscaped := false }
  if character = '\n' then completed
  else { completed with parts := .text [.character character true] :: completed.parts }

def add (character : Char) (line : LineParts) : LineParts :=
  { line with current := .character character false :: line.current }

def all (line : LineParts) : List Part := line.complete.parts.reverse

end LineParts

def readLine (keepsBackslashes : Bool) : Nat → LineParts → Action (Bool × LineParts)
  | 0, line => return (false, line)
  | count + 1, line => do
      match ← Program.read 0 1 with
      | .error _ => return (false, line)
      | .ok bytes =>
          if bytes.isEmpty then return (false, line)
          let character := Char.ofNat (bytes.get! 0).toNat
          if character = '\x00' then readLine keepsBackslashes count line
          else if line.isEscaped then
            readLine keepsBackslashes count (line.addEscaped character)
          else if character = '\\' && !keepsBackslashes then
            readLine keepsBackslashes count { line with isEscaped := true }
          else if character = '\n' then return (true, line)
          else readLine keepsBackslashes count (line.add character)

def readVariables (arguments : List String) : Action Nat := do
  let (options, names) ← takeOptions "p:r" arguments
  if names = [] then fail "arg count"
  let keeps := options.any fun (letter, _) => letter = 'r'
  let (isComplete, line) ← readLine keeps Program.manyRounds {}
  let separators := (← separators?).getD usualSeparators
  let fields := breakUp separators (some names.length) line.all
  let values := fields.map fun field => String.ofList (plainText field)
  for (name, index) in names.zipIdx do
    assign name (values[index]?.getD "")
  return if isComplete then 0 else 1

/-! ## Options of scripts -/

/-- What a letter is among the options that are known: unknown, or one that takes an
argument or not. -/
def optionKind? (letter : Char) : List Char → Option Bool
  | [] => none
  | found :: ':' :: rest => if found = letter then some true else optionKind? letter rest
  | found :: rest => if found = letter then some false else optionKind? letter rest

/-- Where the search for options has got to: the argument that comes next, counted from
one, and the place in the argument before that. -/
structure OptionPlace where
  next : Nat
  place : Option Nat

/-- The letters that are left of the last argument; none if there are none. -/
def lettersLeft (arguments : List String) (index : Nat) (place : Option Nat) : List Char :=
  match place, arguments[index - 2]? with
  | some place, some argument => if index ≤ 1 then [] else argument.toList.drop place
  | _, _ => []

def assignLetter (name : String) (letter : Char) : Action Unit := assign name letter.toString

def refuseOption (message : String) : Action Unit := do
  let _ ← writeText 2 (message ++ "\n")
  unassign "OPTARG"

/-- Take the letter of an option, of which the letters behind it and the next argument
are given.  The result is the letter to report and where the search goes on. -/
def takeLetter (known : String) (arguments : List String) (next : Nat) (letter : Char)
    (rest : List Char) : Action (Char × OptionPlace) := do
  let isSilent := known.startsWith ":"
  let inside : OptionPlace :=
    ⟨next, (arguments[next - 2]?).map fun argument => argument.length - rest.length⟩
  match optionKind? letter known.toList with
  | none =>
      if isSilent then assignLetter "OPTARG" letter
      else refuseOption ("Illegal option -" ++ letter.toString)
      return ('?', inside)
  | some false =>
      assign "OPTARG" ""
      return (letter, inside)
  | some true =>
      if rest ≠ [] then
        assign "OPTARG" (String.ofList rest)
        return (letter, ⟨next, none⟩)
      match arguments[next - 1]? with
      | some argument =>
          assign "OPTARG" argument
          return (letter, ⟨next + 1, none⟩)
      | none =>
          if isSilent then assignLetter "OPTARG" letter
          else refuseOption ("No arg for -" ++ letter.toString ++ " option")
          return (if isSilent then ':' else '?', ⟨next, none⟩)

/-- Look for the next option, from a place on.  The result is none at the end of the
options. -/
def nextOption (known : String) (arguments : List String) (index : Nat) (place : Option Nat) :
    Action (Option Char × OptionPlace) := do
  match lettersLeft arguments index place with
  | letter :: rest =>
      let (found, behind) ← takeLetter known arguments index letter rest
      return (some found, behind)
  | [] =>
      match (arguments[index - 1]?).map String.toList with
      | some ['-', '-'] => return (none, ⟨index + 1, none⟩)
      | some ('-' :: letter :: rest) =>
          let (found, behind) ← takeLetter known arguments (index + 1) letter rest
          return (some found, behind)
      | _ => return (none, ⟨index, none⟩)

/-- Find the next option among the arguments of the script, or among others that are
given. -/
def findOption (arguments : List String) : Action Nat := do
  match arguments with
  | known :: name :: given =>
      let all ← if given = [] then own Own.arguments else pure given
      let index ← own Own.optionIndex
      let place ← own Own.optionPlace
      let isBehind := all.length + 1 < index
      let (found, behind) ← nextOption known all (if isBehind then 1 else index)
        (if isBehind then none else place)
      store "OPTIND" (Text.decimal behind.next) false
      assignLetter name (found.getD '?')
      change fun state => { state with optionIndex := behind.next, optionPlace := behind.place }
      return if found.isSome then 0 else 1
  | _ => fail "Usage: getopts optstring var [arg...]"

end SnippetSandbox.Shell
