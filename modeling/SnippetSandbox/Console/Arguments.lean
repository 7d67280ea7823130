/-!
# The command line

A command line names one of three commands.  Four options may stand before or
behind the command's name; behind it, a run takes the files and an option of its
own.  An option may be given once before the name and once behind it, where the
latter counts.
-/

namespace SnippetSandbox.Console

/-- What to do. -/
inductive Task
  | run (files : List String) (quiet : Bool)
  | reset
  | options
  deriving DecidableEq, Repr

/-- The options that every command takes. -/
structure Options where
  verbose : Bool := false
  root : Option String := none
  config : Option String := none
  seed : Option String := none
  deriving DecidableEq, Repr

/-- What a command line asks for. -/
inductive Request
  | perform (task : Task) (options : Options)
  | version
  | misused
  deriving DecidableEq, Repr

/-- What has been read of the options and files on one side of the name. -/
structure Level where
  options : Options := {}
  quiet : Bool := false
  files : List String := []
  deriving DecidableEq, Repr

/-- Where on the command line something stands. -/
inductive Side
  | before
  | run
  | other
  deriving DecidableEq, Repr

/-- An option that takes a value. -/
inductive ValueOption
  | root
  | config
  | seed
  deriving DecidableEq, Repr

def ValueOption.ofName? : String → Option ValueOption
  | "root" => some .root
  | "config" => some .config
  | "seed" => some .seed
  | _ => none

/-- Note an option's value; none when it is empty or one was given before. -/
def Level.setValue (level : Level) (option : ValueOption) (value : String) : Option Level :=
  let once (given : Option String) (options : Options) : Option Level :=
    if value = "" || given.isSome then none else some { level with options }
  match option with
  | .root => once level.options.root { level.options with root := some value }
  | .config => once level.options.config { level.options with config := some value }
  | .seed => once level.options.seed { level.options with seed := some value }

/-- What an option without a value comes to. -/
inductive FlagEffect
  | noted (level : Level)
  | version
  | refused

def Level.setFlag (level : Level) (side : Side) : Char → FlagEffect
  | 'v' =>
      if level.options.verbose then .refused
      else .noted { level with options := { level.options with verbose := true } }
  | 'q' => if side ≠ .run || level.quiet then .refused else .noted { level with quiet := true }
  | 'V' => if side = .before then .version else .refused
  | _ => .refused

def Level.setFlags (side : Side) : Level → List Char → FlagEffect
  | level, [] => .noted level
  | level, letter :: others =>
      match level.setFlag side letter with
      | .noted level => level.setFlags side others
      | effect => effect

def flagLetter? : String → Option Char
  | "verbose" => some 'v'
  | "quiet" => some 'q'
  | "version" => some 'V'
  | _ => none

/-- A text that is read as an option and not as a name or value. -/
def looksLikeOption (text : String) : Bool :=
  text.toList.head? = some '-' && text ≠ "-"

/-- The options of both sides; those behind the name count first. -/
def Options.merge (before behind : Options) : Options :=
  { verbose := before.verbose || behind.verbose
    root := behind.root.or before.root
    config := behind.config.or before.config
    seed := behind.seed.or before.seed }

/-- Add files; none when one of them has an empty name. -/
def Level.addFiles (level : Level) (side : Side) (files : List String) : Option Level :=
  if files.contains "" || (side ≠ .run && files ≠ []) then none
  else some { level with files := level.files ++ files }

def splitLong (text : String) : String × Option String :=
  let characters := text.toList.drop 2
  let name := characters.takeWhile (· ≠ '=')
  let value := characters.drop name.length
  (String.ofList name, if value = [] then none else some (String.ofList (value.drop 1)))

/-- The next step on a command line. -/
inductive Reading
  | goOn (level : Level) (rest : List String)
  | word (text : String) (rest : List String)
  | wordsOnly (words : List String)
  | finished
  | version
  | refused

def readNext (side : Side) (level : Level) : List String → Reading
  | [] => .finished
  | text :: rest =>
      let flags (letters : List Char) : Reading :=
        match level.setFlags side letters with
        | .noted level => .goOn level rest
        | .version => .version
        | .refused => .refused
      if !looksLikeOption text then .word text rest
      else if text = "--" then .wordsOnly rest
      else if ['-', '-'].isPrefixOf text.toList then
        match splitLong text with
        | (name, some value) =>
            match (ValueOption.ofName? name).bind (level.setValue · value) with
            | some level => .goOn level rest
            | none => .refused
        | (name, none) =>
            match ValueOption.ofName? name, rest with
            | some option, value :: others =>
                if looksLikeOption value then .refused
                else
                  match level.setValue option value with
                  | some level => .goOn level others
                  | none => .refused
            | some _, [] => .refused
            | none, _ =>
                match flagLetter? name with
                | some letter => flags [letter]
                | none => .refused
      else flags (text.toList.drop 1)

/-- Read what follows the name of a command.  `count` bounds the number of steps. -/
def readBehind (side : Side) : Nat → Level → List String → Option Level
  | 0, _, _ => none
  | count + 1, level, arguments =>
      match readNext side level arguments with
      | .goOn level rest => readBehind side count level rest
      | .word text rest => (level.addFiles side [text]).bind (readBehind side count · rest)
      | .wordsOnly words => level.addFiles side words
      | .finished => some level
      | .version | .refused => none

def readCommand (before : Options) (name : String) (rest : List String) : Request :=
  let behind (side : Side) (finish : Level → Option Task) : Request :=
    match readBehind side (rest.length + 1) {} rest with
    | some level =>
        match finish level with
        | some task => .perform task (before.merge level.options)
        | none => .misused
    | none => .misused
  match name with
  | "run" => behind .run fun level =>
      if level.files = [] then none else some (.run level.files level.quiet)
  | "reset" => behind .other fun _ => some .reset
  | "options" => behind .other fun _ => some .options
  | _ => .misused

/-- Read a command line from before the command's name.  `count` bounds the number
of steps. -/
def readBefore : Nat → Level → List String → Request
  | 0, _, _ => .misused
  | count + 1, level, arguments =>
      match readNext .before level arguments with
      | .goOn level rest => readBefore count level rest
      | .word name rest => readCommand level.options name rest
      | .version => .version
      | .wordsOnly _ | .finished | .refused => .misused

/-- What a command line asks for. -/
def Request.ofArguments (arguments : List String) : Request :=
  readBefore (arguments.length + 1) {} arguments

end SnippetSandbox.Console
