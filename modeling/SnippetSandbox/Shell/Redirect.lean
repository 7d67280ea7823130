import SnippetSandbox.Shell.Expand

/-!
# Redirections

A command may lead descriptors elsewhere for as long as it runs.  What a descriptor led
to before is put aside under a higher number and put back afterwards.
-/

namespace SnippetSandbox.Shell

open Action FileSystem Kernel

/-- What a descriptor is led to, with all words expanded. -/
inductive Source
  | write (path : String) (always : Bool)
  | extend (path : String)
  | read (path : String)
  | readAndWrite (path : String)
  /-- What another descriptor leads to; none closes. -/
  | descriptor (number : Option Nat)
  | document (number : Nat)

/-- A redirection with all words expanded. -/
structure Led where
  descriptor : Nat
  source : Source

/-- What a descriptor led to before it was led elsewhere. -/
inductive Former
  | closed
  | kept (descriptor : Nat)
  | unchanged
  deriving DecidableEq, Repr

/-- What descriptors led to before. -/
abbrev Kept := List (Nat × Former)

def causeText : Cause → String
  | .system number => Cause.description number
  | cause => cause.message

/-- Refuse the form of a script where that shows only when it is carried out. -/
def failForm {Result : Type} (problem : String) : Action Result := do
  change fun state => { state with line := state.reached }
  fail ("Syntax error: " ++ problem)

def expandRedirection (substitute : Substitute) : Redirection → Action Led
  | .mk descriptor target => do
      let path (word : Word) : Action String := expandText substitute word
      let source ← match target with
        | .write word always => do pure (.write (← path word) always)
        | .extend word => do pure (.extend (← path word))
        | .read word => do pure (.read (← path word))
        | .readAndWrite word => do pure (.readAndWrite (← path word))
        | .descriptor number => pure (.descriptor number)
        | .document number => pure (.document number)
        | .descriptorOf word => do
            match (← path word).toList with
            | ['-'] => pure (.descriptor none)
            | [digit] =>
                if digit.isDigit then pure (.descriptor (some (Text.digitValue digit)))
                else failForm "Bad fd number"
            | _ => failForm "Bad fd number"
      return ⟨descriptor, source⟩

def failToOpen {Result : Type} (creates : Bool) (path : String) (cause : Cause) :
    Action Result :=
  let problem := match cause with
    | .notFound | .notDirectory => if creates then "Directory nonexistent" else "No such file"
    | _ => causeText cause
  fail ("cannot " ++ (if creates then "create " else "open ") ++ path ++ ": " ++ problem)

def orFail (creates : Bool) (path : String) (opened : Except Cause Nat) : Action Nat :=
  match opened with
  | .ok descriptor => return descriptor
  | .error cause => failToOpen creates path cause

/-- Write a text into a pipe and leave its end to read from.  A long text is written by
a process of its own. -/
def feedDocument (text : String) : Action Nat := do
  let (reading, writing) ← Program.pipe
  if text.length ≤ Pipe.whole then
    let _ ← writeText writing text
  else
    let _ ← Program.fork do
      Program.close reading
      for signal in [1, 2, 3, 20] do Program.react signal (some .ignored)
      let _ ← Program.writeText writing text
      return .exited 0
  Program.close writing
  return reading

/-- Open what a descriptor is to be led to, under a descriptor of its own. -/
def openSource (substitute : Substitute) : Source → Action Nat
  | .write path always => do
      if !always && (← hasOption 'C') &&
          (← Program.askDisk fun disk => disk.isFile (Raw.toText path)) then
        failToOpen true path .alreadyExists
      orFail true path (← Program.openToWrite path false)
  | .extend path => do orFail true path (← Program.openToWrite path true)
  | .read path => do orFail false path (← Program.openToRead path false)
  | .readAndWrite path => do orFail false path (← Program.openToRead path true)
  | .document number => do
      let word := ((← own Own.documents).lookup number).getD []
      feedDocument (← expandDocument substitute word)
  | .descriptor _ => return 0

def putAside (descriptor : Nat) : Action Former := do
  match ← Program.duplicateFrom Program.leastPrivate descriptor with
  | none => return .closed
  | some kept =>
      Program.close descriptor
      return .kept kept

/-- Put aside what a descriptor leads to, unless that has been done already.  `isEmptied`
tells that it is going to lead to nothing. -/
def keepFormer (descriptor : Nat) (isEmptied : Bool) (kept : Kept) : Action Kept := do
  if (kept.lookup descriptor).isSome then return kept
  let former ← putAside descriptor
  let former := if isEmptied && former = .closed then .unchanged else former
  return (descriptor, former) :: kept

/-- Lead a descriptor elsewhere.  With `keeps`, what it led to is put aside.  The result
tells whether that was possible. -/
def lead (substitute : Substitute) (keeps : Bool) (led : Led) (kept : Kept) :
    Action (Kept × Bool) := do
  let keep (isEmptied : Bool) : Action Kept :=
    if keeps then keepFormer led.descriptor isEmptied kept else return kept
  match led.source with
  | .descriptor none =>
      let kept ← keep true
      Program.close led.descriptor
      return (kept, true)
  | .descriptor (some number) =>
      if number = led.descriptor then return (kept, true)
      let kept ← keep false
      if ← Program.duplicate number led.descriptor then return (kept, true)
      change fun state => { state with status := 2 }
      complain (Text.decimal number ++ ": " ++ causeText Program.badDescriptor)
      return (kept, false)
  | source =>
      match ← (openSource substitute source).outcome with
      | .error .failed => return (kept, false)
      | .error halt => throw halt
      | .ok opened =>
          if opened = led.descriptor then
            let isKept := !keeps || (kept.lookup opened).isSome
            return (if isKept then kept else (opened, .closed) :: kept, true)
          let kept ← keep false
          let _ ← Program.duplicate opened led.descriptor
          Program.close opened
          return (kept, true)

def leadAll (substitute : Substitute) (keeps : Bool) : List Led → Kept → Action (Kept × Bool)
  | [], kept => return (kept, true)
  | led :: others, kept => do
      let (kept, isDone) ← lead substitute keeps led kept
      if isDone then leadAll substitute keeps others kept else return (kept, false)

/-- Put back what descriptors led to, or with `stays` only forget it. -/
def putBack (stays : Bool) (kept : Kept) : Action Unit := do
  for (descriptor, former) in kept do
    match former with
    | .unchanged => pure ()
    | .closed => if !stays then Program.close descriptor
    | .kept number =>
        if !stays then
          let _ ← Program.duplicate number descriptor
        Program.close number

def formerErrors (kept : Kept) : Nat :=
  match kept.lookup 2 with
  | some (.kept number) => number
  | _ => 2

end SnippetSandbox.Shell
