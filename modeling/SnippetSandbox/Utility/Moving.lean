import SnippetSandbox.Utility.Copying

/-!
# Moving files

An entry gets another path with all that is in it.  What was there before is replaced,
but a directory only if it is empty.
-/

namespace SnippetSandbox.Utility

open FileSystem Kernel

/-- How files are moved. -/
structure Moving where
  program : String
  asks : Bool := false
  keeps : Bool := false
  /-- What is there stays unless it is older. -/
  updates : Bool := false
  isTold : Bool := false
  made : List String := []

namespace Moving

def refuse (moving : Moving) (message : String) : Work Unit :=
  Work.refuse moving.program message 1

/-- What is at the target may be replaced by an entry; the result tells whether to go on. -/
def mayReplace (moving : Moving) (source target : String) (place found : Place)
    (entry other : Entry) : Work Bool := do
  if place = found || isSameFile entry other then
    moving.refuse (quoteName source ++ " and " ++ quoteName target ++ " are the same file")
    return false
  else if moving.updates && entry ≠ .directory && (← Copying.isNoNewer entry other) then
    return false
  else if moving.keeps then return false
  else if !(← confirmIf moving.asks moving.program ("overwrite " ++ quoteName target)) then
    modify (·.failed 1)
    return false
  else if entry = .directory && other ≠ .directory then
    moving.refuse ("cannot overwrite non-directory " ++ quoteName target ++
      " with directory " ++ quoteName source)
    return false
  else if other ≠ .directory && moving.made.contains target then
    moving.refuse ("will not overwrite just-created " ++ quoteName target ++ " with " ++
      quoteName source)
    return false
  else if entry ≠ .directory && other = .directory then
    moving.refuse ("cannot overwrite directory " ++ quoteName target ++ " with non-directory")
    return false
  else return true

/-- Move an entry; the result tells whether that was done. -/
def move (moving : Moving) (source target : String) : Work Bool := do
  let cannot (message : String) (cause : Cause) : Work Bool := do
    moving.refuse (message ++ ": " ++ describeCause cause)
    return false
  match ← Copying.look false source with
  | .missing => cannot ("cannot stat " ++ quoteName source) .notFound
  | .blocked cause => cannot ("cannot stat " ++ quoteName source) cause
  | .there place entry =>
      let mayGo ← match ← Copying.look false target with
        | .missing => pure true
        | .blocked cause => cannot ("cannot stat " ++ quoteName target) cause
        | .there found other =>
            if endsOnWay source || endsOnWay target then pure true
            else moving.mayReplace source target place found entry other
      if !mayGo then return false
      match ← Program.rename (Raw.toText source) (Raw.toText target) with
      | .ok () =>
          if moving.isTold then
            Work.say ("renamed " ++ quoteName source ++ " -> " ++ quoteName target ++ "\n")
          return true
      | .error cause =>
          if cause = invalidRequest then
            moving.refuse ("cannot move " ++ quoteName source ++ " to a subdirectory of itself, " ++
              quoteName target)
            return false
          else if cause = notEmpty then cannot ("cannot overwrite " ++ quoteName target) cause
          else
            cannot ("cannot move " ++ quoteName source ++ " to " ++ quoteName target) cause

def with' (moving : Moving) (option : GivenOption) : Moving :=
  match option.letter with
  | 'f' => { moving with asks := false, keeps := false }
  | 'i' => { moving with asks := true, keeps := false }
  | 'n' => { moving with asks := false, keeps := true }
  | 'u' => { moving with updates := true }
  | 'v' => { moving with isTold := true }
  | _ => moving

end Moving

def moveForms : List OptionForm :=
  placementForms ++
  [{ letter := 'f', word := "force" }, { letter := 'i', word := "interactive" },
    { letter := 'n', word := "no-clobber" }, { letter := 'u', word := "update" },
    { letter := 'v', word := "verbose" }, { letter := '\x04', word := "strip-trailing-slashes" }]

def moveFiles (program : String) (arguments : List String) : Program Nat :=
  withOptions program 1 moveForms arguments fun taken => do
    let placement ← placementFrom program taken false
      "cannot combine --target-directory (-t) and --no-target-directory (-T)"
      fun directory cause =>
        "target directory " ++ quoteName directory ++ ": " ++ describeCause cause
    match placement with
    | .error status => return status
    | .ok { sources, target, isInside } =>
        let usual : Moving := { program }
        let moving := taken.options.foldl Moving.with' usual
        Work.finish program 1 do
          let mut made : List String := []
          for named in sources do
            let source := if taken.has '\x04' && lastName named ≠ "/" then
                String.ofList (dropSlashes named.toList)
              else named
            let path := if isInside then pathInside target source else target
            let moving := { moving with made }
            if ← moving.move source path then made := path :: made

end SnippetSandbox.Utility
