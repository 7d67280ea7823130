import SnippetSandbox.Utility.Placement
import SnippetSandbox.Utility.Removal

/-!
# Copying files

A copy has the content of a file and can be executed if the file can.  Directories are
copied with all that is in them, if that is asked for, and links are followed or copied
themselves.
-/

namespace SnippetSandbox.Utility

open FileSystem Kernel

/-- Which links are followed. -/
inductive Following
  | every
  | named
  | none
  deriving DecidableEq, Repr

/-- How files are copied. -/
structure Copying where
  program : String
  isRecursive : Bool := false
  following : Option Following := none
  isForced : Bool := false
  asks : Bool := false
  keeps : Bool := false
  /-- What is there stays unless it is older. -/
  updates : Bool := false
  isTold : Bool := false
  removesFirst : Bool := false
  shares : Bool := false
  links : Bool := false
  keepsMode : Bool := false
  keepsMoment : Bool := false
  made : List String := []

/-- A copy as a whole, seen from a part of it. -/
structure Copied where
  source : String
  target : String
  /-- The directory that was made for the copy, if it was. -/
  made : Option Place := none

namespace Copying

def refuse (copying : Copying) (message : String) : Work Unit :=
  Work.refuse copying.program message 1

def refuseFor (copying : Copying) (message : String) (cause : Cause) : Work Unit :=
  copying.refuse (message ++ ": " ++ describeCause cause)

/-- The links that are followed: all of them unless directories are copied. -/
def followed (copying : Copying) : Following :=
  copying.following.getD
    (if copying.isRecursive && !copying.shares then Following.none else .every)

def tell (copying : Copying) (source target : String) : Work Unit := do
  if copying.isTold then
    Work.say (quoteName source ++ " -> " ++ quoteName target ++ "\n")

def clear (copying : Copying) (target : String) : Work Unit := do
  if let .ok () ← Program.onDisk (removeFile (Raw.toText target)) then
    if copying.isTold then Work.say ("removed " ++ quoteName target ++ "\n")

def keepMarks (copying : Copying) (isNew : Bool) (identity copy : Nat) (executable : Bool)
    (target : String) : Program Unit := do
  let mask ← Program.askSelf Process.mask
  let mode ← Program.ask fun system => system.modeOf identity executable
  if copying.keepsMode || isNew then
    let given := if copying.keepsMode then mode else mode - (mode &&& mask)
    let _ ← Program.onDisk (setExecutable (Raw.toText target) (given &&& 0o111 ≠ 0))
    Program.modify fun system => { system with modes := (copy, given) :: system.modes }
  if copying.keepsMoment then
    Program.modify fun system =>
      { system with changed := (copy, system.changeOf identity) ::
          system.changed.filter (·.1 ≠ copy) }

def putContent (copying : Copying) (target : String) (origin : Option (Nat × Bool))
    (content : ByteArray) : Work Unit := do
  let isNew ← Program.askDisk fun disk =>
    !(disk.find (Raw.toText target) matches .ok (.present _ _))
  let isDangling ← Program.askDisk fun disk =>
    disk.findLink (Raw.toText target) matches .ok (.present _ (.link _))
  if isNew && isDangling then
    copying.refuse ("not writing through dangling symlink " ++ quoteName target)
  else
    match ← Program.openToWrite target false with
    | .error cause =>
        let shown := if isNew && cause = .isDirectory then .notDirectory else cause
        copying.refuseFor ("cannot create regular file " ++ quoteName target) shown
    | .ok descriptor =>
        match ← Program.write descriptor content with
        | .ok () => pure ()
        | .error cause => copying.refuseFor ("error writing " ++ quoteName target) cause
        let copy ← Program.ask fun system => match system.openFile? descriptor with
          | some (_, { stream := .file _ identity, .. }) => some identity
          | _ => none
        Program.close descriptor
        match origin, copy with
        | some (identity, executable), some copy =>
            copying.keepMarks isNew identity copy executable target
        | _, _ => pure ()

def putName (copying : Copying) (source target : String) : Work Unit := do
  let make : Program (Except Cause Unit) :=
    if copying.links then
      Program.onDisk (makeLink (Raw.toText target) (Raw.toText source))
    else Program.share (Raw.toText source) (Raw.toText target) (copying.followed ≠ .none)
  if copying.links && !Path.isAbsolute source && target.toList.contains '/' then
    copying.refuse
      (labelName target ++ ": can make relative symbolic links only in current directory")
  else
    let first ← make
    let result ← match first with
      | .error .alreadyExists =>
          if copying.isForced then
            copying.clear target
            make
          else pure first
      | other => pure other
    if let .error cause := result then
      let kind := if copying.links then "symbolic" else "hard"
      copying.refuseFor
        ("cannot create " ++ kind ++ " link " ++ quoteName target ++ " to " ++ quoteName source)
        cause

/-- What a target is to a source. -/
inductive Found
  | missing
  | blocked (cause : Cause)
  | there (place : Place) (entry : Entry)

def look (follows : Bool) (target : String) : Program Found :=
  Program.askDisk fun disk =>
    match (if follows then disk.find else disk.findLink) (Raw.toText target) with
    | .ok (.present place entry) => .there place entry
    | .ok (.absent _ _) => .missing
    | .error .notFound => .missing
    | .error cause => .blocked cause

def isNoNewer (entry other : Entry) : Program Bool :=
  Program.ask fun system => match entry, other with
    | .file first _ _, .file second _ _ => system.changeOf first ≤ system.changeOf second
    | _, _ => true

/-- What is at the target may be replaced by an entry; the result tells whether to go on. -/
def mayReplace (copying : Copying) (source target : String) (place found : Place)
    (entry other : Entry) : Work Bool := do
  let isSame := place = found || isSameFile entry other
  if isSame && entry ≠ .directory && !(copying.removesFirst && place ≠ found) then
    if copying.shares && place ≠ found then return false
    copying.refuse (quoteName source ++ " and " ++ quoteName target ++ " are the same file")
    return false
  else if entry = .directory then
    if other = .directory then return true
    copying.refuse ("cannot overwrite non-directory " ++ quoteName target ++
      " with directory " ++ quoteName source)
    return false
  else if copying.updates && (← isNoNewer entry other) then return false
  else if copying.keeps then return false
  else if !(← confirmIf copying.asks copying.program ("overwrite " ++ quoteName target)) then
    modify (·.failed 1)
    return false
  else if other = .directory then
    copying.refuse ("cannot overwrite directory " ++ quoteName target ++ " with non-directory")
    return false
  else if copying.made.contains target then
    copying.refuse ("will not overwrite just-created " ++ quoteName target ++ " with " ++
      quoteName source)
    return false
  else
    let isLinkCopied := match entry with
      | .link _ => true
      | _ => false
    if copying.removesFirst || isLinkCopied then copying.clear target
    return true

/-- Make the copy of an entry, now that nothing is in the way.  `copyPart` copies what is
in a directory. -/
def fill (copying : Copying) (copyPart : Copied → String → String → Work Unit)
    (whole : Option Copied) (source target : String) (place : Place) (entry : Entry)
    (isNew : Bool) : Work Unit := do
  if entry ≠ .directory then copying.tell source target
  match entry with
  | .directory =>
      let made ← if isNew then Program.onDisk (FileSystem.makeDirectory (Raw.toText target))
        else pure (.ok ())
      match made with
      | .error cause => copying.refuseFor ("cannot create directory " ++ quoteName target) cause
      | .ok () =>
          if isNew then copying.tell source target
          let here ← Program.askDisk fun disk => match disk.find (Raw.toText target) with
            | .ok (.present place _) => if isNew then some place else none
            | _ => none
          let whole := whole.getD ⟨source, target, here⟩
          let names ← Program.askDisk fun disk => disk.tree.names place
          for name in names do
            copyPart whole (pathInside source (Raw.ofText name))
              (pathInside target (Raw.ofText name))
  | .link text =>
      if copying.shares || copying.links then copying.putName source target
      else
        if let .error cause ← Program.onDisk (makeLink (Raw.toText target) text) then
          copying.refuseFor ("cannot create symbolic link " ++ quoteName target) cause
  | .file identity _ executable =>
      if copying.shares || copying.links then copying.putName source target
      else
        let content ← Program.ask fun system => system.content place identity
        copying.putContent target (some (identity, executable)) content
  | .device _ => copying.putContent target none .empty

/-- Copy an entry; `whole` is the copy that it is part of, unless it is an operand.
`levels` bounds how deep directories are nested. -/
def copy (copying : Copying) (whole : Option Copied) : Nat → String → String → Work Unit
  | 0, source, _ => copying.refuseFor ("cannot stat " ++ quoteName source) .nameTooLong
  | levels + 1, source, target => do
      let followed := copying.followed
      let follows := followed = .every || (followed = .named && whole.isNone)
      if (Program.descriptorOfPath? source).isSome then
        match ← readInput source with
        | .ok content =>
            copying.tell source target
            copying.putContent target none (Raw.bytes content)
        | .error cause => copying.refuseFor ("cannot stat " ++ quoteName source) cause
      else
        match ← look follows source with
        | .missing => copying.refuseFor ("cannot stat " ++ quoteName source) .notFound
        | .blocked cause => copying.refuseFor ("cannot stat " ++ quoteName source) cause
        | .there place entry =>
            if entry = .directory && !copying.isRecursive then
              copying.refuse ("-r not specified; omitting directory " ++ quoteName source)
            else if whole.any fun whole => whole.made = some place then
              let shown := whole.getD ⟨source, target, none⟩
              copying.refuse ("cannot copy a directory, " ++ quoteName shown.source ++
                ", into itself, " ++ quoteName shown.target)
            else
              let copyPart (whole : Copied) := copying.copy (some whole) levels
              let isRegular := entry matches .file ..
              let looksThrough := isRegular && !(copying.shares || copying.links ||
                copying.removesFirst)
              match ← look looksThrough target with
              | .blocked cause => copying.refuseFor ("cannot stat " ++ quoteName target) cause
              | .missing => copying.fill copyPart whole source target place entry true
              | .there found other =>
                  if ← copying.mayReplace source target place found entry other then
                    copying.fill copyPart whole source target place entry false
def with' (copying : Copying) (option : GivenOption) : Copying :=
  match option.letter with
  | 'r' | 'R' => { copying with isRecursive := true }
  | 'a' =>
      { copying with
        isRecursive := true, following := some .none, keepsMode := true, keepsMoment := true }
  | 'd' | 'P' => { copying with following := some .none }
  | 'L' => { copying with following := some .every }
  | 'H' => { copying with following := some .named }
  | 'f' => { copying with isForced := true }
  | 'i' => { copying with asks := true, keeps := false }
  | 'n' => { copying with keeps := true, asks := false }
  | 'u' => { copying with updates := true }
  | 'v' => { copying with isTold := true }
  | 'l' => { copying with shares := true }
  | 's' => { copying with links := true }
  | 'p' | '\x02' => { copying with keepsMode := true, keepsMoment := true }
  | '\x01' => { copying with removesFirst := true }
  | _ => copying

end Copying

def copyForms : List OptionForm :=
  placementForms ++
  [{ letter := 'a', word := "archive" }, { letter := 'r', word := "recursive" },
    { letter := 'R' }, { letter := 'd' }, { letter := 'P', word := "no-dereference" },
    { letter := 'L', word := "dereference" }, { letter := 'H' }, { letter := 'f', word := "force" },
    { letter := 'i', word := "interactive" }, { letter := 'n', word := "no-clobber" },
    { letter := 'u', word := "update" }, { letter := 'v', word := "verbose" },
    { letter := 'l', word := "link" }, { letter := 's', word := "symbolic-link" },
    { letter := 'p' }, { letter := 'x', word := "one-file-system" },
    { letter := '\x01', word := "remove-destination" },
    { letter := '\x02', word := "preserve", taking := .optional },
    { letter := '\x03', word := "no-preserve", taking := .required },
    { letter := '\x04', word := "strip-trailing-slashes" }]

def copyFiles (program : String) (arguments : List String) : Program Nat :=
  withOptions program 1 copyForms arguments fun taken => do
    let placement ← placementFrom program taken false
      "cannot combine --target-directory (-t) and --no-target-directory (-T)"
      fun directory cause =>
        "target directory " ++ quoteName directory ++ ": " ++ describeCause cause
    match placement with
    | .error status => return status
    | .ok { sources, target, isInside } =>
        let usual : Copying := { program }
        let copying := taken.options.foldl Copying.with' usual
        if copying.shares && copying.links then
          complain program "cannot make both hard and symbolic links"
          return ← pointToHelp program 1
        Work.finish program 1 do
          let mut seen : List String := []
          let mut made : List String := []
          for source in sources do
            if !isInside then copying.copy none deepest source target
            else
              let path :=
                if lastName source = ".." then pathInside target "." else pathInside target source
              let isDirectory ← Program.askDisk fun disk => disk.isDirectory (Raw.toText source)
              let isThere ← Program.askDisk fun disk => disk.pathExists (Raw.toText source)
              if seen.contains source && isThere then
                let kind := if isDirectory then "directory" else "file"
                Work.warn program
                  ("warning: source " ++ kind ++ " " ++ quoteName source ++
                    " specified more than once")
              else
                let copying := { copying with made }
                copying.copy none deepest source path
                if !isDirectory then made := path :: made
              seen := source :: seen

end SnippetSandbox.Utility
