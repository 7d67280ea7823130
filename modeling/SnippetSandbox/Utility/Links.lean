import SnippetSandbox.Utility.Copying

/-!
# Links

A link is a name for a path, and a file may get several paths of its own.  The path that
links lead to is found out with or without asking whether it is there.
-/

namespace SnippetSandbox.Utility

open FileSystem Kernel

/-! ## Making links -/

/-- How links are made. -/
structure Linking where
  program : String
  isSymbolic : Bool := false
  isForced : Bool := false
  asks : Bool := false
  /-- A link to a directory is not taken for the directory. -/
  sparesLinks : Bool := false
  isRelative : Bool := false
  isTold : Bool := false
  /-- What links lead to gets one more path, not the links themselves. -/
  followsSource : Bool := false

def relativePath (base target : List String) : List String :=
  match base, target with
  | first :: base, second :: target =>
      if first = second then relativePath base target
      else List.replicate (base.length + 1) ".." ++ second :: target
  | base, target => List.replicate base.length ".." ++ target

namespace Linking

def refuse (linking : Linking) (message : String) : Work Unit :=
  Work.refuse linking.program message 1

def problem (linking : Linking) (source path : String) (cause : Cause) : String :=
  let name := quoteName path
  let shown :=
    if linking.isSymbolic then
      if source = "" || cause = .nameTooLong then
        "failed to create symbolic link " ++ name ++ " -> " ++ quoteName source
      else "failed to create symbolic link " ++ name
    else if cause = .alreadyExists then "failed to create hard link " ++ name
    else "failed to create hard link " ++ name ++ " => " ++ quoteName source
  shown ++ ": " ++ describeCause cause

def make (linking : Linking) (source path : String) : Program (Except Cause Unit) :=
  if linking.isSymbolic then
    if source = "" then return .error .notFound
    else Program.onDisk (makeLink (Raw.toText path) (Raw.toText source))
  else Program.share (Raw.toText source) (Raw.toText path) linking.followsSource

def sourceFrom (linking : Linking) (source path : String) : Program String :=
  if linking.isSymbolic && linking.isRelative then
    Program.askDisk fun disk =>
      let placeOf (path : String) : Option Place := match disk.find (Raw.toText path) with
        | .ok (.present place _) | .ok (.absent place _) => some place
        | _ => none
      match placeOf (directoryName path), placeOf source with
      | some base, some target =>
          match relativePath base.reverse target.reverse with
          | [] => "."
          | names => Raw.ofText ("/".intercalate names)
      | _, _ => source
  else return source

/-- What is in the way of a link may go; the result tells whether it is to be removed. -/
def mayReplace (linking : Linking) (named path : String) : Work (Option Bool) := do
  match ← Copying.look false path with
  | .there place other =>
      if !linking.isForced && !linking.asks then return some false
      else if other = .directory then
        linking.refuse (labelName path ++ ": cannot overwrite directory")
        return none
      else
        let isSame : Bool ← Program.askDisk fun disk => match disk.findLink (Raw.toText named) with
          | .ok (.present origin _) => origin = place
          | _ => false
        if isSame then
          linking.refuse (quoteName named ++ " and " ++ quoteName path ++ " are the same file")
          return none
        else if linking.asks then
          if ← confirm linking.program ("replace " ++ quoteName path) then return some true
          else
            modify (·.failed 1)
            return none
        else return some true
  | _ => return some false

def link (linking : Linking) (named path : String) : Work Unit := do
  if !linking.isSymbolic then
    match ← Copying.look linking.followsSource named with
    | .missing =>
        linking.refuse ("failed to access " ++ quoteName named ++ ": " ++ describeCause .notFound)
        return
    | .blocked cause =>
        linking.refuse ("failed to access " ++ quoteName named ++ ": " ++ describeCause cause)
        return
    | .there _ .directory =>
        linking.refuse (labelName named ++ ": hard link not allowed for directory")
        return
    | .there _ _ => pure ()
  match ← linking.mayReplace named path with
  | none => return ()
  | some removes =>
      if removes then
        let _ ← Program.onDisk (removeFile (Raw.toText path))
      let source ← linking.sourceFrom named path
      match ← linking.make source path with
      | .error cause => linking.refuse (linking.problem source path cause)
      | .ok () =>
          if linking.isTold then
            let arrow := if linking.isSymbolic then " -> " else " => "
            Work.say (quoteName path ++ arrow ++ quoteName source ++ "\n")

def with' (linking : Linking) (option : GivenOption) : Linking :=
  match option.letter with
  | 's' => { linking with isSymbolic := true }
  | 'f' => { linking with isForced := true, asks := false }
  | 'i' => { linking with asks := true, isForced := false }
  | 'n' => { linking with sparesLinks := true }
  | 'r' => { linking with isRelative := true }
  | 'v' => { linking with isTold := true }
  | 'L' => { linking with followsSource := true }
  | 'P' => { linking with followsSource := false }
  | _ => linking

end Linking

def linkForms : List OptionForm :=
  placementForms ++
  [{ letter := 's', word := "symbolic" }, { letter := 'f', word := "force" },
    { letter := 'i', word := "interactive" }, { letter := 'n', word := "no-dereference" },
    { letter := 'r', word := "relative" }, { letter := 'v', word := "verbose" },
    { letter := 'L', word := "logical" }, { letter := 'P', word := "physical" },
    { letter := 'd', word := "directory" }, { letter := 'F' }]

def makeLinks (program : String) (arguments : List String) : Program Nat :=
  withOptions program 1 linkForms arguments fun taken => do
    let usual : Linking := { program }
    let linking := taken.options.foldl Linking.with' usual
    -- A link to a directory that is not followed is no directory to put links into.
    let isSpared ← match linking.sparesLinks, taken.operands with
      | true, [_, last] => Program.askDisk fun disk =>
          (disk.findLink (Raw.toText last) matches .ok (.present _ (.link _)))
      | _, _ => pure false
    let taken := if isSpared then taken.add ⟨'T', none⟩ else taken
    let placement ← placementFrom program taken true
      "cannot combine --target-directory and --no-target-directory"
      fun directory cause =>
        if cause = .notDirectory then "target " ++ quoteName directory ++ " is not a directory"
        else "failed to access " ++ quoteName directory ++ ": " ++ describeCause cause
    match placement with
    | .error status => return status
    | .ok { sources, target, isInside } =>
        if linking.isRelative && !linking.isSymbolic then
          complain program "cannot do --relative without --symbolic"
          return 1
        Work.finish program 1 do
          let mut made : List String := []
          for source in sources do
            let path := if isInside then pathInside target source else target
            if made.contains path && linking.isForced then
              linking.refuse ("will not overwrite just-created " ++ quoteName path ++ " with " ++
                quoteName source)
            else
              linking.link source path
              made := path :: made

/-! ## Reading links -/

/-- How much of a path has to be there. -/
inductive Needed
  | everything
  | allButLast
  | nothing
  deriving DecidableEq, Repr

def placeAnyway (disk : Disk) : Place → List String → Place
  | here, [] => here
  | here, segment :: rest =>
      if Path.isVoid segment then placeAnyway disk here rest
      else if segment = ".." then placeAnyway disk here.tail rest
      else
        match disk.tree.find here .content segment with
        | .ok (.present place _) | .ok (.absent place _) => placeAnyway disk place rest
        | .error _ => placeAnyway disk (segment :: here) rest

def realPath (disk : Disk) (needed : Needed) (path : String) : Except Cause String :=
  let text := Raw.toText path
  match disk.find text with
  | .ok (.present place _) => .ok (Raw.ofText place.path)
  | .ok (.absent place _) =>
      if needed = .everything then .error .notFound else .ok (Raw.ofText place.path)
  | .error cause =>
      if needed = .nothing && text ≠ "" then
        let start := if Path.isAbsolute text then [] else disk.current
        .ok (Raw.ofText (placeAnyway disk start (Path.segments text)).path)
      else .error cause

def linkText (disk : Disk) (path : String) : Except Cause String :=
  match disk.findLink (Raw.toText path) with
  | .ok (.present _ (.link target)) => .ok (Raw.ofText target)
  | .ok (.present _ _) => .error invalidRequest
  | .ok (.absent _ _) => .error .notFound
  | .error cause => .error cause

def readLinks (program : String) (arguments : List String) : Program Nat :=
  let forms : List OptionForm :=
    [{ letter := 'f', word := "canonicalize" }, { letter := 'e', word := "canonicalize-existing" },
      { letter := 'm', word := "canonicalize-missing" }, { letter := 'n', word := "no-newline" },
      { letter := 'q', word := "quiet" }, { letter := 's', word := "silent" },
      { letter := 'v', word := "verbose" }, { letter := 'z', word := "zero" }]
  withOptions program 1 forms arguments fun taken => do
    if taken.operands = [] then return ← missingOperand program []
    let needed : Option Needed := (taken.last? ['f', 'e', 'm']).map fun letter =>
      if letter = 'e' then .everything else if letter = 'm' then .nothing else .allButLast
    let isAlone := taken.operands.length = 1
    if taken.has 'n' && !isAlone then
      complain program "ignoring --no-newline with multiple arguments"
    let ending := if taken.has 'n' && isAlone then "" else if taken.has 'z' then "\x00" else "\n"
    let isTold := taken.last? ['q', 's', 'v'] = some 'v'
    Work.finish program 1 do
      for path in taken.operands do
        let found ← Program.askDisk fun disk => match needed with
          | some needed => realPath disk needed path
          | none => linkText disk path
        match found with
        | .ok text => Work.say (text ++ ending)
        | .error cause =>
            if isTold then Work.refuse program (labelName path ++ ": " ++ describeCause cause) 1
            else modify (·.failed 1)

end SnippetSandbox.Utility
