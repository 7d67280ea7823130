import SnippetSandbox.FileSystem.Rearrange
import SnippetSandbox.Utility.Mode
import SnippetSandbox.Utility.Report

/-!
# Making and removing directories

A directory may be made with all that are missing around it, and be removed with those
around it that are empty then.
-/

namespace SnippetSandbox.Utility

open FileSystem Kernel

/-- The paths that a path goes through, from the first name on, with the last name of
each. -/
def pathsOnWay (path : String) : List (String × String) :=
  go path.toList []
where
  /-- Go on behind the part of the path that has been passed, the last character first. -/
  go : List Char → List Char → List (String × String)
    | [], passed =>
        let name := passed.takeWhile (· ≠ '/')
        if name = [] then [] else [(String.ofList passed.reverse, String.ofList name.reverse)]
    | '/' :: rest, passed =>
        let name := passed.takeWhile (· ≠ '/')
        let others := go rest ('/' :: passed)
        if name = [] then others
        else (String.ofList passed.reverse, String.ofList name.reverse) :: others
    | character :: rest, passed => go rest (character :: passed)

def causeAt? (path : String) : Program (Option Cause) :=
  Program.askDisk fun disk => match disk.entryAt? (Raw.toText path) with
    | .ok .directory => none
    | .ok _ => some .notDirectory
    | .error cause => some cause

/-- Make a directory; the result tells whether it was made now. -/
def makeWithin (isLast : Bool) (path name : String) : Program (Except Cause Bool) := do
  if name = ".." || name = "." then
    match ← causeAt? path with
    | none => return .ok false
    | some cause => return .error cause
  match ← Program.onDisk (FileSystem.makeDirectory (Raw.toText path)) with
  | .ok () => return .ok true
  | .error cause =>
      match ← causeAt? path with
      | none => return .ok false
      | some found =>
          if found = .notFound || isLast then return .error cause else return .error found

def makeWay (program : String) (isTold : Bool) (path : String) :
    List (String × String) → Work Unit
  | [] => return ()
  | (part, name) :: others => do
      match ← makeWithin (others = []) part name with
      | .error cause =>
          let shown := if others = [] then path else part
          Work.refuse program
            ("cannot create directory " ++ quoteText shown ++ ": " ++ describeCause cause) 1
      | .ok isNew =>
          if isNew && isTold then
            Work.say (program ++ ": created directory " ++ quoteText part ++ "\n")
          makeWay program isTold path others

def makeDirectories (program : String) (arguments : List String) : Program Nat :=
  let forms : List OptionForm :=
    [{ letter := 'p', word := "parents" }, { letter := 'v', word := "verbose" },
      { letter := 'm', word := "mode", taking := .required }, { letter := 'Z' }]
  withOptions program 1 forms arguments fun taken => do
    if taken.operands = [] then return ← missingOperand program []
    if let some mode := taken.argument? 'm' then
      if (Mode.read? mode).isNone then
        complain program ("invalid mode " ++ quoteText mode)
        return 1
    Work.finish program 1 do
      for path in taken.operands do
        match taken.has 'p', pathsOnWay path with
        | true, first :: others => makeWay program (taken.has 'v') path (first :: others)
        | true, [] =>
            if path = "" then
              Work.refuse program
                ("cannot create directory '': " ++ describeCause .notFound) 1
        | false, _ =>
            match ← Program.onDisk (FileSystem.makeDirectory (Raw.toText path)) with
            | .ok () =>
                if taken.has 'v' then
                  Work.say (program ++ ": created directory " ++ quoteText path ++ "\n")
            | .error cause =>
                Work.refuse program
                  ("cannot create directory " ++ quoteText path ++ ": " ++ describeCause cause) 1

def removalProblem (path : String) (cause : Cause) : Program String := do
  let isLink ← Program.askDisk fun disk =>
    Path.endsInSlash path && (disk.findName (Raw.toText path) matches .ok (.present _ (.link _))) &&
      disk.isDirectory (Raw.toText path)
  return quoteName path ++ ": " ++
    (if isLink && cause = .notDirectory then "Symbolic link not followed" else describeCause cause)

def removeWay (program : String) (isTold ignoresRest : Bool) : Bool → List String → Work Unit
  | _, [] => return ()
  | isFirst, path :: others => do
      if isTold then Work.say (program ++ ": removing directory, " ++ quoteName path ++ "\n")
      match ← Program.onDisk (removeDirectory (Raw.toText path)) with
      | .ok () => removeWay program isTold ignoresRest false others
      | .error cause =>
          if !(ignoresRest && cause = notEmpty) then
            Work.refuse program ((if isFirst then "failed to remove " else
              "failed to remove directory ") ++ (← removalProblem path cause)) 1

def removeDirectories (program : String) (arguments : List String) : Program Nat :=
  let forms : List OptionForm :=
    [{ letter := 'p', word := "parents" }, { letter := 'v', word := "verbose" },
      { letter := '\x01', word := "ignore-fail-on-non-empty" }]
  withOptions program 1 forms arguments fun taken => do
    if taken.operands = [] then return ← missingOperand program []
    Work.finish program 1 do
      for path in taken.operands do
        let way := if taken.has 'p' then (pathsOnWay path).map Prod.fst else []
        removeWay program (taken.has 'v') (taken.has '\x01') true
          (path :: (way.reverse.drop 1))

end SnippetSandbox.Utility
