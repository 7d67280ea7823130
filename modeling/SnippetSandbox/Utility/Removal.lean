import SnippetSandbox.FileSystem.Rearrange
import SnippetSandbox.Utility.Report

/-!
# Removing files

Files are removed, and directories with all that is in them if that is asked for.
Somebody may be asked before anything goes.
-/

namespace SnippetSandbox.Utility

open FileSystem Kernel

/-- When somebody is asked. -/
inductive Asking
  | never
  | once
  | always
  deriving DecidableEq, Repr

/-- How files are removed. -/
structure Removing where
  program : String
  asking : Asking := .never
  ignoresMissing : Bool := false
  isRecursive : Bool := false
  removesEmpty : Bool := false
  isTold : Bool := false
  sparesRoot : Bool := true

/-- What has become of an entry. -/
inductive Removed
  | gone
  | kept
  | failed
  deriving DecidableEq, Repr

def deepest : Nat := 5000

def entryKind : Entry → String
  | .directory => "directory"
  | .file _ content _ => if content.isEmpty then "regular empty file" else "regular file"
  | .link _ => "symbolic link"
  | .device _ => "character special file"

namespace Removing

def refuse (removing : Removing) (path : String) (cause : Cause) : Work Removed := do
  Work.refuse removing.program
    ("cannot remove " ++ quoteName path ++ ": " ++ describeCause cause) 1
  return .failed

def mayGo (removing : Removing) (question : String) : Work Bool :=
  if removing.asking = .always then confirm removing.program question else return true

def take (removing : Removing) (path : String) (isDirectory : Bool) : Work Removed := do
  let raw := Raw.toText path
  match ← Program.onDisk (if isDirectory then removeDirectory raw else removeFile raw) with
  | .error cause => removing.refuse path cause
  | .ok () =>
      if removing.isTold then
        Work.say ((if isDirectory then "removed directory " else "removed ") ++
          quoteName path ++ "\n")
      return .gone

/-- Remove a directory with all that is in it.  `remove` removes an entry in it. -/
def takeDirectory (removing : Removing) (remove : String → Work Removed) (path : String)
    (names : List String) : Work Removed := do
  let name := quoteName path
  if names = [] then
    if ← removing.mayGo ("remove directory " ++ name) then removing.take path true
    else return .kept
  else if !(← removing.mayGo ("descend into directory " ++ name)) then return .kept
  else
    let results ← names.mapM fun inner => remove (Path.join path (Raw.ofText inner))
    if results.contains .failed then return .failed
    if results.contains .kept then return .kept
    if ← removing.mayGo ("remove directory " ++ name) then removing.take path true
    else return .kept

/-- Remove an entry; `isNamed` tells that it is an operand.  `levels` bounds how deep
directories are nested. -/
def remove (removing : Removing) (isNamed : Bool) : Nat → String → Work Removed
  | 0, path => removing.refuse path .nameTooLong
  | levels + 1, path => do
      let found ← Program.askDisk fun disk => disk.findLink (Raw.toText path)
      match found with
      | .error cause =>
          if removing.ignoresMissing && (cause = .notFound || cause = .notDirectory) then
            return .gone
          removing.refuse path cause
      | .ok (.absent _ _) =>
          if removing.ignoresMissing then return .gone else removing.refuse path .notFound
      | .ok (.present place .directory) =>
          let names ← Program.askDisk fun disk => disk.tree.names place
          if !removing.isRecursive && !(removing.removesEmpty && names = []) then
            removing.refuse path (if removing.removesEmpty then notEmpty else .isDirectory)
          else if isNamed && ["." , ".."].contains (lastSegment path) then
            Work.refuse removing.program
              ("refusing to remove '.' or '..' directory: skipping " ++ quoteName path) 1
            return .failed
          else if isNamed && removing.sparesRoot && place = [] then
            let also := if path = "/" then "" else " (same as '/')"
            Work.warn removing.program
              ("it is dangerous to operate recursively on " ++ quoteName path ++ also)
            Work.refuse removing.program "use --no-preserve-root to override this failsafe" 1
            return .failed
          else removing.takeDirectory (removing.remove false levels) path names
      | .ok (.present _ entry) =>
          if ← removing.mayGo ("remove " ++ entryKind entry ++ " " ++ quoteName path) then
            removing.take path false
          else return .kept

def with' (removing : Removing) (option : GivenOption) : Removing :=
  match option.letter with
  | 'f' => { removing with asking := .never, ignoresMissing := true }
  | 'i' => { removing with asking := .always, ignoresMissing := false }
  | 'I' => { removing with asking := .once, ignoresMissing := false }
  | 'n' => { removing with asking := .never }
  | 'r' | 'R' => { removing with isRecursive := true }
  | 'd' => { removing with removesEmpty := true }
  | 'v' => { removing with isTold := true }
  | '\x01' => { removing with sparesRoot := false }
  | _ => removing

end Removing

def askingWords : List (List String) := [["never", "no", "none"], ["once"], ["always", "yes"]]

def removalForms : List OptionForm :=
  [{ letter := 'f', word := "force" }, { letter := 'i' }, { letter := 'I' },
    { letter := '\x02', word := "interactive", taking := .optional },
    { letter := 'r', word := "recursive" }, { letter := 'R' }, { letter := 'd', word := "dir" },
    { letter := 'v', word := "verbose" }, { letter := '\x01', word := "no-preserve-root" },
    { letter := '\x03', word := "preserve-root", taking := .optional },
    { letter := '\x04', word := "one-file-system" }]

def plainAsking (option : GivenOption) : GivenOption :=
  if option.letter ≠ '\x02' then option
  else
    match option.argument with
    | none => ⟨'i', none⟩
    | some argument =>
        match choice? argument askingWords with
        | some "once" => ⟨'I', none⟩
        | some "always" => ⟨'i', none⟩
        | some "never" => ⟨'n', none⟩
        | _ => option

def removeFiles (program : String) (arguments : List String) : Program Nat := do
  match takeApart removalForms true (argumentSteps arguments) [] arguments with
  | .error problem =>
      complain program problem
      let named ← Program.askDisk fun disk => arguments.find? fun argument =>
        argument.startsWith "-" && argument ≠ "-" &&
          (disk.findLink (Raw.toText argument) matches .ok (.present _ _))
      if let some name := named then
        let _ ← Program.writeText 2
          ("Try '" ++ program ++ " ./" ++ showName name ++ "' to remove the file " ++
            quoteName name ++ ".\n")
      pointToHelp program 1
  | .ok taken =>
      let options := taken.options.map plainAsking
      if let some wrong := options.find? fun option => option.letter = '\x02' then
        return ← wrongChoice program "--interactive" (wrong.argument.getD "") askingWords
      let usual : Removing := { program }
      let removing := options.foldl Removing.with' usual
      let operands := taken.operands
      if operands = [] then
        if removing.ignoresMissing then return 0 else return ← missingOperand program []
      if removing.asking = .once && (removing.isRecursive || 3 < operands.length) then
        let amount := Text.decimal operands.length ++
          (if operands.length = 1 then " argument" else " arguments")
        if !(← confirm program
            ("remove " ++ amount ++ if removing.isRecursive then " recursively" else "")) then
          return 0
      Work.finish program 1 do
        for path in operands do
          let _ ← removing.remove true deepest path

end SnippetSandbox.Utility
