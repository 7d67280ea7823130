import SnippetSandbox.Utility.Copying
import SnippetSandbox.Utility.Mode

/-!
# Changing permissions

Files get permissions by a number, by a change, or from another file.
-/

namespace SnippetSandbox.Utility

open FileSystem Kernel

/-- How permissions are changed. -/
structure Permitting where
  program : String
  change : Mode.Change
  isRecursive : Bool
  isSilent : Bool
  tellsAll : Bool
  tellsChanges : Bool
  /-- It is a failure that the mask of the process keeps something from being changed. -/
  mindsMask : Bool

namespace Permitting

def ofDirectory : Nat := 0o755

def refuse (permitting : Permitting) (path message : String) : Work Unit := do
  if permitting.isSilent then modify (·.failed 1)
  else Work.refuse permitting.program message 1
  if permitting.tellsAll then Work.say (quoteName path ++ " could not be accessed\n")

def tell (permitting : Permitting) (path : String) (before after : Nat) : Work Unit := do
  let shown (mode : Nat) : String := Mode.octal mode ++ " (" ++ Mode.letters mode ++ ")"
  if before ≠ after then
    if permitting.tellsAll || permitting.tellsChanges then
      Work.say ("mode of " ++ quoteName path ++ " changed from " ++ shown before ++ " to " ++
        shown after ++ "\n")
  else if permitting.tellsAll then
    Work.say ("mode of " ++ quoteName path ++ " retained as " ++ shown before ++ "\n")

/-- Complain if something has not been changed because of the mask of the process. -/
def checkMask (permitting : Permitting) (path : String) (isDirectory : Bool)
    (before after : Nat) : Work Unit := do
  let wanted := permitting.change.apply isDirectory 0 before
  if permitting.mindsMask && after - (after &&& wanted) ≠ 0 then
    Work.refuse permitting.program
      (labelName path ++ ": new permissions are " ++ Mode.letters after ++ ", not " ++
        Mode.letters wanted) 1

/-- Change the permissions of what is at a path; `isNamed` tells that it is an operand.
`levels` bounds how deep directories are nested. -/
def permit (permitting : Permitting) (isNamed : Bool) : Nat → String → Work Unit
  | 0, path => permitting.refuse path ("cannot access " ++ quoteName path)
  | levels + 1, path => do
      let mask ← Program.askSelf Process.mask
      let isLink ← Program.askDisk fun disk =>
        disk.findLink (Raw.toText path) matches .ok (.present _ (.link _))
      if isLink && (permitting.isRecursive || !isNamed) then return ()
      match ← Copying.look true path with
      | .missing =>
          permitting.refuse path
            (if isLink then "cannot operate on dangling symlink " ++ quoteName path
            else "cannot access " ++ quoteName path ++ ": " ++ describeCause .notFound)
      | .blocked cause =>
          permitting.refuse path ("cannot access " ++ quoteName path ++ ": " ++ describeCause cause)
      | .there place .directory =>
          let after := permitting.change.apply true mask ofDirectory
          permitting.tell path ofDirectory after
          permitting.checkMask path true ofDirectory after
          if permitting.isRecursive then
            let names ← Program.askDisk fun disk => disk.tree.names place
            for name in names do
              permitting.permit false levels (pathInside path (Raw.ofText name))
      | .there _ (.file identity _ executable) =>
          let before ← Program.ask fun system => system.modeOf identity executable
          let after := permitting.change.apply false mask before
          let _ ← Program.onDisk (setExecutable (Raw.toText path) (after &&& 0o111 ≠ 0))
          Program.modify fun system =>
            { system with modes := (identity, after) :: system.modes }
          permitting.tell path before after
          permitting.checkMask path false before after
      | .there _ _ => return ()

end Permitting

def isModeOption (argument : String) : Bool :=
  match argument.toList with
  | '-' :: letter :: _ => "rwxXstugoa,+=01234567".toList.contains letter
  | _ => false

def splitModes : List String → List String × List String
  | [] => ([], [])
  | "--" :: others => ([], "--" :: others)
  | argument :: others =>
      let (modes, rest) := splitModes others
      if isModeOption argument then (argument :: modes, rest) else (modes, argument :: rest)

def permissionForms : List OptionForm :=
  [{ letter := 'R', word := "recursive" }, { letter := 'c', word := "changes" },
    { letter := 'f', word := "quiet" }, { letter := 'f', word := "silent" },
    { letter := 'v', word := "verbose" },
    { letter := '\x01', word := "reference", taking := .required },
    { letter := '\x02', word := "no-preserve-root" }, { letter := '\x03', word := "preserve-root" }]

def changePermissions (program : String) (arguments : List String) : Program Nat := do
  let (modes, others) := splitModes arguments
  withOptions program 1 permissionForms others fun taken => do
    let reference := taken.argument? '\x01'
    let isGiven := modes ≠ [] || reference.isSome
    let (text, paths) := match isGiven, taken.operands with
      | false, mode :: paths => (mode, paths)
      | _, paths => (",".intercalate modes, paths)
    if paths = [] then
      if !isGiven && taken.operands = [] then return ← missingOperand program []
      let last := (arguments.filter (· ≠ "--")).getLastD text
      return ← missingOperand program (if isGiven then [] else [last])
    let change : Except String Mode.Change ← match reference with
      | some path =>
          match ← Program.askDisk fun disk => disk.entryAt? (Raw.toText path) with
          | .ok (.file identity _ executable) =>
              let mode ← Program.ask fun system => system.modeOf identity executable
              pure (.ok (.all mode))
          | .ok _ => pure (.ok (.all Permitting.ofDirectory))
          | .error cause =>
              pure (.error ("failed to get attributes of " ++ quoteName path ++ ": " ++
                describeCause cause))
      | none =>
          match Mode.read? text with
          | some change => pure (.ok change)
          | none => return ← misuse program ("invalid mode: " ++ quoteText text) 1
    match change with
    | .error problem =>
        complain program problem
        return 1
    | .ok change =>
        let permitting : Permitting :=
          { program, change
            isRecursive := taken.has 'R'
            isSilent := taken.has 'f'
            tellsAll := taken.last? ['v', 'c'] = some 'v'
            tellsChanges := taken.has 'c'
            mindsMask := modes ≠ [] }
        Work.finish program 1 do
          for path in paths do permitting.permit true deepest path

end SnippetSandbox.Utility
