import SnippetSandbox.Utility.Quoting

/-!
# Options of programs

Options are letters behind a minus sign, or words behind two of them, which may be cut
short as long as one word is meant.  They may stand among the operands, and two minus
signs alone end them.
-/

namespace SnippetSandbox.Utility

/-- Whether an option has an argument. -/
inductive Taking
  | none
  | required
  | optional
  deriving DecidableEq, Repr

/-- An option: the letter it is known by, with the word for it.  One that has only a word
is known by a letter that cannot be written. -/
structure OptionForm where
  letter : Char
  word : String := ""
  taking : Taking := .none

/-- An option that was given. -/
structure GivenOption where
  letter : Char
  argument : Option String := none

/-- Options and operands, as they are taken apart. -/
structure TakenApart where
  options : List GivenOption := []
  operands : List String := []

namespace TakenApart

def has (taken : TakenApart) (letter : Char) : Bool :=
  taken.options.any fun option => option.letter = letter

def last? (taken : TakenApart) (letters : List Char) : Option Char :=
  (taken.options.reverse.find? fun option => letters.contains option.letter).map (·.letter)

def argument? (taken : TakenApart) (letter : Char) : Option String :=
  (taken.options.reverse.find? fun option => option.letter = letter).bind (·.argument)

def add (option : GivenOption) (taken : TakenApart) : TakenApart :=
  { taken with options := option :: taken.options }

end TakenApart

def meant (forms : List OptionForm) (word : String) : List OptionForm :=
  match forms.find? fun form => form.word = word with
  | some form => [form]
  | none => forms.filter fun form => form.word ≠ "" && form.word.startsWith word

/-- The option that a word is, with the argument behind an equals sign, or what is wrong
with it.  The result tells whether the next argument belongs to it. -/
def wordOption (forms : List OptionForm) (text : String) : Except String (GivenOption × Bool) :=
  let name := String.ofList (text.toList.takeWhile (· ≠ '='))
  let argument := match text.toList.drop name.length with
    | [] => none
    | _ :: value => some (String.ofList value)
  match meant forms name with
  | [] => .error ("unrecognized option '--" ++ text ++ "'")
  | form :: others =>
      if others ≠ [] && others.any fun other => other.letter ≠ form.letter then
        .error ("option '--" ++ text ++ "' is ambiguous; possibilities:" ++
          String.join ((form :: others).map fun form => " '--" ++ form.word ++ "'"))
      else
        match form.taking, argument with
        | .none, some _ => .error ("option '--" ++ form.word ++ "' doesn't allow an argument")
        | .required, none => .ok (⟨form.letter, none⟩, true)
        | _, _ => .ok (⟨form.letter, argument⟩, false)

/-- Take options and operands apart.  `letters` are those that are left of an argument.
With `permutes`, options may stand behind operands.  `count` bounds the number of
steps. -/
def takeApart (forms : List OptionForm) (permutes : Bool) : Nat → List Char → List String →
    Except String TakenApart
  | 0, _, arguments => .ok { operands := arguments }
  | _, [], [] => .ok {}
  | count + 1, [], argument :: others =>
      match argument.toList with
      | ['-', '-'] => .ok { operands := others }
      | '-' :: '-' :: word => do
          let (option, needsNext) ← wordOption forms (String.ofList word)
          if !needsNext then return (← takeApart forms permutes count [] others).add option
          match others with
          | [] => throw ("option '" ++ argument ++ "' requires an argument")
          | next :: rest =>
              return (← takeApart forms permutes count [] rest).add ⟨option.letter, some next⟩
      | '-' :: letter :: letters => takeApart forms permutes count (letter :: letters) others
      | _ =>
          if permutes then do
            let taken ← takeApart forms permutes count [] others
            return { taken with operands := argument :: taken.operands }
          else .ok { operands := argument :: others }
  | count + 1, letter :: letters, arguments =>
      match forms.find? fun form => form.letter = letter with
      | none => .error ("invalid option -- '" ++ letter.toString ++ "'")
      | some form =>
          match form.taking, letters, arguments with
          | .none, _, _ => do
              return (← takeApart forms permutes count letters arguments).add ⟨letter, none⟩
          | .optional, [], _ => do
              return (← takeApart forms permutes count [] arguments).add ⟨letter, none⟩
          | .required, [], [] =>
              .error ("option requires an argument -- '" ++ letter.toString ++ "'")
          | .required, [], next :: rest => do
              return (← takeApart forms permutes count [] rest).add ⟨letter, some next⟩
          | _, _, _ => do
              let argument := String.ofList letters
              return (← takeApart forms permutes count [] arguments).add ⟨letter, some argument⟩

def argumentSteps (arguments : List String) : Nat :=
  (arguments.map fun argument => argument.length + 2).sum + 1

def letterForms (letters : String) : List OptionForm :=
  letters.toList.map fun letter => { letter }

end SnippetSandbox.Utility
