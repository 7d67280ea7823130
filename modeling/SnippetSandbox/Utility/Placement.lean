import SnippetSandbox.FileSystem.Rearrange
import SnippetSandbox.Utility.PathName
import SnippetSandbox.Utility.Report

/-!
# Where files are put

Files are put into a directory, or one of them gets a path of its own.  The last operand
tells which, unless an option does.
-/

namespace SnippetSandbox.Utility

open FileSystem Kernel

/-- What is put where. -/
structure Placement where
  sources : List String
  target : String
  /-- The target is a directory, in which the sources get paths. -/
  isInside : Bool
  deriving DecidableEq, Repr

def placementForms : List OptionForm :=
  [{ letter := 't', word := "target-directory", taking := .required },
    { letter := 'T', word := "no-target-directory" }]

def pathInside (directory source : String) : String :=
  let name := lastName source
  if name = "/" then directory
  else if Path.endsInSlash directory || directory = "" then directory ++ name
  else directory ++ "/" ++ name

def noDirectory? (path : String) : Program (Option Cause) :=
  Program.askDisk fun disk => match disk.entryAt? (Raw.toText path) with
    | .ok .directory => none
    | .ok _ => some .notDirectory
    | .error cause => some cause

/-- Find out what is put where.  `targetProblem` describes a target directory that is
none, and `mayBeAlone` tells that a single operand is put into the directory at hand.
The result is a status when the operands are wrong. -/
def placementFrom (program : String) (taken : TakenApart) (mayBeAlone : Bool) (bothGiven : String)
    (targetProblem : String → Cause → String) : Program (Except Nat Placement) := do
  let refuse (message : String) : Program (Except Nat Placement) := do
    complain program message
    return .error 1
  let misused (message : String) : Program (Except Nat Placement) := do
    return .error (← misuse program message 1)
  let operands := taken.operands
  let targets := taken.options.filter fun option => option.letter = 't'
  if 1 < targets.length then return ← refuse "multiple target directories specified"
  match taken.argument? 't', operands with
  | some _, [] | none, [] => misused "missing file operand"
  | some directory, _ =>
      if taken.has 'T' then refuse bothGiven
      else
        match ← noDirectory? directory with
        | none => return .ok ⟨operands, directory, true⟩
        | some cause => refuse (targetProblem directory cause)
  | none, [source] =>
      if mayBeAlone && !taken.has 'T' then return .ok ⟨[source], ".", true⟩
      else misused ("missing destination file operand after " ++ quoteName source)
  | none, first :: second :: others =>
      if taken.has 'T' then
        match others with
        | [] => return .ok ⟨[first], second, false⟩
        | extra :: _ => misused ("extra operand " ++ quoteName extra)
      else
        let last := operands.getLastD second
        match ← noDirectory? last with
        | none => return .ok ⟨operands.dropLast, last, true⟩
        | some cause =>
            if others = [] then return .ok ⟨[first], last, false⟩
            else refuse ("target " ++ quoteName last ++ ": " ++ describeCause cause)

end SnippetSandbox.Utility
