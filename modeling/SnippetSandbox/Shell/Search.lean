import SnippetSandbox.Shell.Directory
import SnippetSandbox.Shell.Naming
import SnippetSandbox.Utility.Image

/-!
# Finding commands

A word that is a command names a function, a command of the language itself or of the
shell, or a program.  Programs are searched for in the directories of the search path,
and those that were found are remembered.
-/

namespace SnippetSandbox.Shell

open Action FileSystem Kernel Utility

/-- The commands that the shell carries out itself, apart from those that belong to the
language. -/
def ownCommands : List String :=
  ["[", "alias", "bg", "cd", "chdir", "command", "echo", "false", "fg", "getopts", "hash", "jobs",
    "kill", "printf", "pwd", "read", "test", "true", "type", "ulimit", "umask", "unalias", "wait"]

def assigningCommands : List String := ["alias", "export", "local", "readonly"]

def usualSearchPath : String := "/usr/local/sbin:/usr/local/bin:/usr/sbin:/usr/bin:/sbin:/bin"

def searchPath : Action String := do return (← valueOf? "PATH").getD ""

/-- What a command is. -/
inductive Meaning
  | command
  | function (body : Command)
  /-- A program, with the paths at which it may be, the first one first. -/
  | program (paths : List String)
  /-- Nothing that is known, and whether something of its name cannot be started. -/
  | unknown (isRefused : Bool)

/-- The paths that a name may have, from the one at which it was found. -/
def pathsFrom (searchPath name : String) (found : String) : List String :=
  ((pathsIn searchPath name).map Prod.snd).dropWhile (· ≠ found)

/-- The first of some paths at which a program is, and whether something else is at
one of them. -/
def findAmong (disk : Disk) : List String → Option String × Bool
  | [] => (none, false)
  | path :: others =>
      match disk.entryAt? (Raw.toText path) with
      | .ok (.file _ _ true) => (some path, false)
      | .ok _ =>
          let (found, _) := findAmong disk others
          (found, true)
      | .error _ => findAmong disk others

/-- The paths that are looked at for a program that was found before the directory was
changed: one in a fixed place is taken to be still there. -/
def pathsAgain (former : String) (paths : List String) : List String :=
  let before := paths.takeWhile (· ≠ former)
  if Path.isAbsolute former then before.filter fun path => !Path.isAbsolute path
  else before.filter (fun path => !Path.isAbsolute path) ++ paths.dropWhile (· ≠ former)

def remember (name path : String) : Action Unit :=
  change fun state => { state with found := place name { path } state.found }

def forget (name : String) : Action Unit :=
  change fun state => { state with found := state.found.filter fun (found, _) => found ≠ name }

/-- Find the program of a name in the search path, or in another one, which is not
remembered. -/
def findProgram (other : Option String) (name : String) : Action Meaning := do
  if '/' ∈ name.toList then return .program [name]
  let used ← match other with
    | some path => pure path
    | none => searchPath
  let former ← if other.isSome then pure none else own fun state => state.found.lookup name
  let paths := (pathsIn used name).map Prod.snd
  match former with
  | some { path, isStale := false } => return .program (pathsFrom used name path)
  | _ =>
      let looked := match former with
        | some { path, .. } => pathsAgain path paths
        | none => paths
      let (found, isRefused) ← Program.askDisk fun disk => findAmong disk looked
      let kept := (former.map Found.path).filter Path.isAbsolute
      match found.or kept with
      | some path =>
          if other.isNone then remember name path
          return .program (pathsFrom used name path)
      | none =>
          if other.isNone then forget name
          return .unknown isRefused

/-- Find what a command is; functions may be passed over. -/
def findCommand (passesFunctions : Bool) (other : Option String) (name : String) :
    Action Meaning := do
  match (← own fun state => state.functions.lookup name).filter fun _ => !passesFunctions with
  | some body => return .function body
  | none =>
      if specialCommands.contains name || ownCommands.contains name then return .command
      findProgram other name

def complainUnknown (name : String) (isRefused : Bool) : Action Unit :=
  complain (name ++ if isRefused then ": Permission denied" else ": not found")

/-! ## Programs that were found -/

/-- How many columns the table of programs has. -/
def programColumns : Nat := 31

def showFound (arguments : List String) : Action Nat := do
  let (options, names) ← takeOptions "r" arguments
  if options ≠ [] then
    change fun state => { state with found := [] }
    return 0
  if names = [] then
    let found ← own Own.found
    return ← putLines ((tabulated programColumns found).map fun (_, entry) =>
      entry.path ++ if entry.isStale then "*" else "")
  let mut status := 0
  for name in names do
    forget name
    match ← findCommand false none name with
    | .unknown isRefused =>
        complainUnknown name isRefused
        status := 1
    | _ => pure ()
  return status

/-! ## Descriptions -/

/-- Describe what a command is, in full or as short as it can be called. -/
def describe (inFull : Bool) (other : Option String) (name : String) :
    Action (Nat × String) := do
  let told (description short : String) : Action (Nat × String) :=
    return (0, (if inFull then name ++ description else short) ++ "\n")
  if reservedWords.contains name then return ← told " is a shell keyword" name
  match ← own fun state => state.abbreviations.lookup name with
  | some text =>
      return ← told (" is an alias for " ++ text) ("alias " ++ shownAbbreviation name text)
  | none => pure ()
  let unknown : Nat × String := (127, if inFull then name ++ ": not found\n" else "")
  let isTracked ← own fun state => other.isNone && (state.found.lookup name).isSome
  match ← findCommand false other name with
  | .function _ => told " is a shell function" name
  | .command =>
      let special := if specialCommands.contains name then "special " else ""
      told (" is a " ++ special ++ "shell builtin") name
  | .program (path :: _) =>
      if '/' ∈ name.toList &&
          !(← Program.askDisk fun disk => disk.pathExists (Raw.toText path)) then
        return unknown
      told (" is " ++ (if isTracked then "a tracked alias for " else "") ++ path) path
  | _ => return unknown

def describeAll (names : List String) : Action Nat := do
  let mut status := 0
  let mut shown := ""
  for name in names do
    let (found, text) ← describe true none name
    status := status ||| found
    shown := shown ++ text
  if shown = "" then return status
  return status ||| (← put shown)

/-- Describe a command as the options of the command that passes functions over ask
for. -/
def describeOne (arguments : List String) : Action Nat := do
  let (options, names) ← takeOptions "pvV" arguments
  let letters := options.map Prod.fst
  match names with
  | [] => return 0
  | name :: _ =>
      if !(letters.contains 'v' || letters.contains 'V') then return 0
      let other := if letters.contains 'p' then some usualSearchPath else none
      let (status, shown) ← describe (letters.contains 'V') other name
      if shown = "" then return status
      return status ||| (← put shown)

end SnippetSandbox.Shell
