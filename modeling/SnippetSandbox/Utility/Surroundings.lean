import SnippetSandbox.Kernel.Simulation
import SnippetSandbox.Shell.Number
import SnippetSandbox.Utility.Execute
import SnippetSandbox.Utility.PathName
import SnippetSandbox.Utility.Report

/-!
# Programs that start others in other surroundings

A program may be started with other variables, in another directory, immune against
the end of its session, or in a session of its own.
-/

namespace SnippetSandbox.Utility

open FileSystem Kernel Supervision

/-! ## Becoming another program -/

def scriptShell : String := "/bin/sh"

/-- Start the file at a path; scripts that name no program are the usual shell's. -/
def startScript (disk : Disk) (path name : String) (arguments : List String) :
    Except Cause Invocation :=
  match startFile disk path name arguments with
  | .error .notExecutableFormat => startFile disk scriptShell scriptShell (path :: arguments)
  | found => found

/-- What starting a program by its name amounts to.  Paths at which nothing is, or nothing
that may be executed, are passed over. -/
def locateScript (disk : Disk) (name : String) (arguments : List String) (denied : Bool) :
    Cause → List String → Except Cause Invocation
  | cause, [] => .error (if denied then .permissionDenied else cause)
  | _, path :: others =>
      match startScript disk path (if '/' ∈ name.toList then path else name) arguments with
      | .ok invocation => .ok invocation
      | .error .permissionDenied => locateScript disk name arguments true .permissionDenied others
      | .error .notFound => locateScript disk name arguments denied .notFound others
      | .error .notDirectory => locateScript disk name arguments denied .notDirectory others
      | .error cause => .error cause

def unstartedStatus (cause : Cause) : Nat :=
  if cause = .notFound then 127 else 126

/-- Become another program; the result is the cause when that is not possible. -/
def becomeProgram (execute : Execute) (environment : List (String × String)) (name : String)
    (arguments : List String) : Program Cause := do
  let searchPath := (environment.lookup "PATH").getD bareSearchPath
  let found ← Program.askDisk fun disk =>
    if name = "" then .error .notFound
    else locateScript disk name arguments false .notFound (programPaths searchPath name)
  match found with
  | .error cause => return cause
  | .ok invocation =>
      Program.pause programCost
      Program.becomeOther
      Program.finish (← execute invocation environment)

/-! ## Other variables -/

def assign (name value : String) : List (String × String) → List (String × String)
  | [] => [(name, value)]
  | (found, former) :: others =>
      if found = name then (name, value) :: others
      else (found, former) :: assign name value others

def assignment? (argument : String) : Option (String × String) :=
  let name := argument.toList.takeWhile (· ≠ '=')
  match argument.toList.drop name.length with
  | [] => none
  | _ :: value => some (String.ofList name, String.ofList value)

/-- How a text is split into arguments: the words so far, the last one first, the
characters of the word at hand, if there is one, and the quotes it is in. -/
structure Splitting where
  words : List String := []
  word : Option (List Char) := none
  quote : Option Char := none

def Splitting.add (splitting : Splitting) (characters : List Char) : Splitting :=
  { splitting with word := some (splitting.word.getD [] ++ characters) }

def Splitting.endWord (splitting : Splitting) : Splitting :=
  match splitting.word with
  | none => splitting
  | some word => { splitting with words := String.ofList word :: splitting.words, word := none }

def splitEscape? : Char → Option Char
  | 'n' => some '\n'
  | 't' => some '\t'
  | 'r' => some '\r'
  | 'f' => some '\x0c'
  | 'v' => some '\x0b'
  | '"' => some '"'
  | '\'' => some '\''
  | '\\' => some '\\'
  | '#' => some '#'
  | '$' => some '$'
  | _ => none

def splitText (environment : List (String × String)) (count : Nat) (splitting : Splitting)
    (text : List Char) : Except String (List String) :=
  match count, text with
  | 0, _ | _, [] =>
      if splitting.quote.isSome then .error "no terminating quote in -S string"
      else .ok splitting.endWord.words.reverse
  | count + 1, character :: rest =>
      let goOn := splitText environment count
      match splitting.quote, character, rest with
      | some '\'', '\'', _ => goOn { splitting with quote := none } rest
      | some '\'', '\\', escaped :: behind =>
          if escaped = '\'' || escaped = '\\' then goOn (splitting.add [escaped]) behind
          else goOn (splitting.add ['\\', escaped]) behind
      | some '\'', _, _ => goOn (splitting.add [character]) rest
      | some _, '"', _ => goOn { splitting with quote := none } rest
      | none, '"', _ => goOn { splitting.add [] with quote := some '"' } rest
      | none, '\'', _ => goOn { splitting.add [] with quote := some '\'' } rest
      | _, '\\', [] => .error "invalid backslash at end of string in -S"
      | some _, '\\', '_' :: behind => goOn (splitting.add [' ']) behind
      | none, '\\', '_' :: behind => goOn splitting.endWord behind
      | some _, '\\', 'c' :: _ => .error "'\\c' must not appear in double-quoted -S string"
      | none, '\\', 'c' :: _ => .ok splitting.endWord.words.reverse
      | _, '\\', letter :: behind =>
          match splitEscape? letter with
          | some escaped => goOn (splitting.add [escaped]) behind
          | none => .error ("invalid sequence '\\" ++ letter.toString ++ "' in -S")
      | _, '$', '\x7b' :: behind =>
          let name := behind.takeWhile (· ≠ '\x7d')
          goOn
            (match environment.lookup (String.ofList name) with
            | some value => splitting.add value.toList
            | none => splitting)
            (behind.drop (name.length + 1))
      | _, '$', _ =>
          .error ("only $\x7bVARNAME\x7d expansion is supported, error at: " ++
            String.ofList (character :: rest))
      | none, _, _ =>
          if [' ', '\t', '\n', '\x0b', '\x0c', '\r'].contains character then goOn splitting.endWord rest
          else if character = '#' && splitting.word.isNone then .ok splitting.words.reverse
          else goOn (splitting.add [character]) rest
      | some _, _, _ => goOn (splitting.add [character]) rest

def surroundingForms : List OptionForm :=
  [{ letter := 'i', word := "ignore-environment" }, { letter := '0', word := "null" },
    { letter := 'u', word := "unset", taking := .required },
    { letter := 'C', word := "chdir", taking := .required },
    { letter := 'S', word := "split-string", taking := .required },
    { letter := 'v', word := "debug" },
    { letter := '\x01', word := "ignore-signal", taking := .optional },
    { letter := '\x02', word := "default-signal", taking := .optional },
    { letter := '\x03', word := "block-signal", taking := .optional },
    { letter := '\x04', word := "list-signal-handling" }]

/-- The arguments with texts split that are options to be split.  `count` bounds how
often that happens. -/
def withSplitTexts (environment : List (String × String)) : Nat → List String →
    Except String (List String)
  | 0, arguments => .ok arguments
  | _, [] => .ok []
  | count + 1, argument :: others =>
      let split (text : String) (rest : List String) : Except String (List String) := do
        let words ← splitText environment (text.length + 1) {} text.toList
        withSplitTexts environment count (words ++ rest)
      let flags := (argument.toList.drop 1).takeWhile fun letter => "i0v".toList.contains letter
      match argument.toList, others with
      | '-' :: '-' :: _, _ =>
          let start := "--split-string="
          if argument.startsWith start then
            split (String.ofList (argument.toList.drop start.length)) others
          else if argument = "--" then .ok (argument :: others)
          else (withSplitTexts environment count others).map (argument :: ·)
      | ['-', 'u'], name :: rest | ['-', 'C'], name :: rest =>
          (withSplitTexts environment count rest).map (argument :: name :: ·)
      | '-' :: letters, _ =>
          match letters.drop flags.length, others with
          | ['S'], text :: rest =>
              let kept := if flags = [] then [] else [String.ofList ('-' :: flags)]
              (split text rest).map (kept ++ ·)
          | 'S' :: text, _ =>
              if text = [] then .ok (argument :: others)
              else
                let kept := if flags = [] then [] else [String.ofList ('-' :: flags)]
                (split (String.ofList text) others).map (kept ++ ·)
          | _, _ => (withSplitTexts environment count others).map (argument :: ·)
      | _, _ => .ok (argument :: others)

def signalNumber? (text : String) : Option Nat :=
  let name := if text.startsWith "SIG" then String.ofList (text.toList.drop 3) else text
  (Signal.ofText? name).filter (· ≠ 0)

def reactTo (reaction : Option Reaction) (named : Option String) : Program Unit := do
  let signals := match named with
    | some text => ((Text.splitOn ',' text.toList).map String.ofList).filterMap signalNumber?
    | none => (List.range Signal.count).drop 1
  for signal in signals do
    if !Signal.unstoppable.contains signal then Program.react signal reaction

def startWith (execute : Execute) (program : String) (environment : List (String × String))
    (arguments : List String) : Program Nat := do
  let failure := 125
  match withSplitTexts environment (argumentSteps arguments) arguments with
  | .error problem =>
      complain program problem
      return failure
  | .ok arguments =>
  withLeadingOptions program failure surroundingForms arguments fun taken => do
    let (isBare, operands) := match taken.operands with
      | "-" :: others => (true, others)
      | operands => (taken.has 'i', operands)
    let mut bindings := if isBare then [] else environment
    for option in taken.options do
      if option.letter = 'u' then
        let name := option.argument.getD ""
        if name = "" || name.toList.contains '=' then
          complain program ("cannot unset " ++ quoteText name ++ ": Invalid argument")
          return failure
        bindings := bindings.filter (·.1 ≠ name)
    let assigning := operands.takeWhile fun operand => (assignment? operand).isSome
    for (name, value) in assigning.filterMap assignment? do
      bindings := assign name value bindings
    match operands.drop assigning.length with
    | [] =>
        if (taken.argument? 'C').isSome then
          return ← misuse program "must specify command with --chdir (-C)" failure
        let ending := if taken.has '0' then "\x00" else "\n"
        let lines := bindings.map fun (name, value) => name ++ "=" ++ value ++ ending
        Report.finish program failure { output := String.join lines }
    | name :: others =>
        if taken.has '0' then
          return ← misuse program "cannot specify --null (-0) with command" failure
        for option in taken.options do
          if option.letter = '\x01' then reactTo (some .ignored) option.argument
          if option.letter = '\x02' then reactTo none option.argument
        if let some directory := taken.argument? 'C' then
          match ← Program.askDisk fun disk => disk.find (Raw.toText directory) with
          | .ok (.present place .directory) =>
              Program.changeSelf fun process => { process with directory := place }
          | found =>
              let cause := match found with
                | .ok (.present _ _) => Cause.notDirectory
                | .ok (.absent _ _) => .notFound
                | .error cause => cause
              complain program
                ("cannot change directory to " ++ quoteName directory ++ ": " ++
                  describeCause cause)
              return failure
        let cause ← becomeProgram execute bindings name others
        complain program (quoteText name ++ ": " ++ describeCause cause)
        if cause = .notFound && name.toList.any Shell.isSpace then
          complain program "use -[v]S to pass options in shebang lines"
        return unstartedStatus cause

/-! ## Immune programs and other sessions -/

def startImmune (execute : Execute) (program : String) (environment : List (String × String))
    (arguments : List String) : Program Nat :=
  withLeadingOptions program 125 [] arguments fun taken => do
    match taken.operands with
    | [] => misuse program "missing operand" 125
    | name :: others =>
        Program.react 1 (some .ignored)
        let cause ← becomeProgram execute environment name others
        complain program
          ("failed to run command " ++ quoteName name ++ ": " ++ describeCause cause)
        return unstartedStatus cause

def sessionForms : List OptionForm :=
  [{ letter := 'c', word := "ctty" }, { letter := 'f', word := "fork" },
    { letter := 'w', word := "wait" }]

/-- Start a program in a session of its own.  The first process of a group cannot leave
it, so it starts another one. -/
def startApart (execute : Execute) (program : String) (environment : List (String × String))
    (arguments : List String) : Program Nat := do
  let short := lastName program
  let misused (message : String) (label : String) : Program Nat := do
    complain label message
    pointToHelp short 1
  match takeApart sessionForms false (argumentSteps arguments) [] arguments with
  | .error problem => misused problem program
  | .ok taken =>
      match taken.operands with
      | [] => misused "no command specified" short
      | name :: others =>
          let start : Program Nat := do
            Program.leaveGroup
            let cause ← becomeProgram execute environment name others
            complain short ("failed to execute " ++ name ++ ": " ++ describeCause cause)
            return unstartedStatus cause
          let isFirst : Bool ← Program.askSelf fun process => process.parent = 1
          if !isFirst && !taken.has 'f' then start
          else
            let child ← Program.fork do return .exited (← start)
            if !taken.has 'w' then return 0
            match ← Program.awaitEnd false with
            | some (number, .exited status) => return if number = child then status else 0
            | some (_, .killed signal) => return 128 + signal
            | none => return 1

end SnippetSandbox.Utility
