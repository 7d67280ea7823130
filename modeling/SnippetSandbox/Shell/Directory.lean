import SnippetSandbox.Shell.Options

/-!
# The directory, and what else a process has

A script knows its directory by the way it was gone to: a link stays in the path,
and two dots take the last name of the path away.  The permissions that new files do
not get and the limits on what is used belong to the process as well.
-/

namespace SnippetSandbox.Shell

open Action FileSystem Kernel

/-! ## Directories -/

/-- A path seen from a directory that is known by its own path, without dots. -/
def logicalPath (current path : String) : String :=
  let written := path.toList
  let isAbsolute := Path.isAbsolute path
  let whole := if isAbsolute then written else current.toList
  let root := match whole with
    | '/' :: '/' :: '/' :: _ => if isAbsolute then "/" else "//"
    | '/' :: '/' :: _ => "//"
    | _ => "/"
  let names (path : String) := (Path.segments path).filter (· ≠ "")
  let step (passed : List String) (name : String) : List String :=
    if name = "." then passed else if name = ".." then passed.dropLast else passed ++ [name]
  let start := if isAbsolute then [] else names current
  root ++ "/".intercalate ((names path).foldl step start)

/-- The path of the directory without links; none when it is gone. -/
def physicalPath? : Action (Option String) := do
  Program.askDisk fun disk =>
    if disk.tree.lookup disk.current = some .directory then
      some (Raw.ofText (Place.path disk.current))
    else none

def physicalPath : Action String := do
  match ← physicalPath? with
  | some path => return path
  | none =>
      complain "getcwd() failed: No such file or directory"
      return ""

def assignExported (name value : String) : Action Unit := do
  store name value true
  change fun state => state.set name { state.variableOf name with isExported := true }

/-- Go to a directory; the result tells whether that was possible. -/
def goTo (physically : Bool) (path : String) : Action Bool := do
  let current ← own Own.directory
  let isKnown := !physically && (Path.isAbsolute path || current ≠ "")
  let way := if isKnown then logicalPath current path else path
  match ← Program.askDisk fun disk => disk.find (Raw.toText way) with
  | .ok (.present place .directory) =>
      Program.changeSelf fun process => { process with directory := place }
      assignExported "OLDPWD" current
      let now ← if isKnown then pure way else physicalPath
      change fun state =>
        { state with
          directory := now
          found := state.found.map fun (name, found) => (name, { found with isStale := true }) }
      assignExported "PWD" now
      return true
  | _ => return false

/-- The path that is looked for in other directories too: it does not begin at the root,
nor with a name of dots. -/
def isSearched (path : String) : Bool :=
  match Path.segments path with
  | "" :: _ :: _ => false
  | first :: _ => first ≠ "." && first ≠ ".."
  | [] => true

/-- The paths under which a name may be found in the directories of a list, each with
the directory. -/
def pathsIn (directories name : String) : List (String × String) :=
  (Text.splitOn ':' directories.toList).map fun directory =>
    let directory := String.ofList directory
    (directory, if directory = "" then name else directory ++ "/" ++ name)

def isPhysical (options : List (Char × String)) : Bool :=
  options.getLast?.any fun (letter, _) => letter = 'P'

def changeDirectory (arguments : List String) : Action Nat := do
  let (options, operands) ← takeOptions "LP" arguments
  let physically := isPhysical options
  let isBack := operands.head? = some "-"
  let path ← match operands with
    | [] => pure ((← valueOf? "HOME").getD "")
    | "-" :: _ => pure ((← valueOf? "OLDPWD").getD "")
    | path :: _ => pure path
  let listed ← if isSearched path then valueOf? "CDPATH" else pure none
  let path := if path = "" then "." else path
  let ways := (listed.map fun directories => pathsIn directories path).getD []
  let found ← Program.askDisk fun disk =>
    ways.find? fun (_, way) => disk.isDirectory (Raw.toText way)
  let way := (found.map Prod.snd).getD path
  if !(← goTo physically way) then fail ("can't cd to " ++ path)
  if isBack || found.any fun (directory, _) => directory ≠ "" then
    put ((← own Own.directory) ++ "\n")
  else return 0

def showDirectory (arguments : List String) : Action Nat := do
  let (options, _) ← takeOptions "LP" arguments
  let path ← if isPhysical options then physicalPath else own Own.directory
  put (path ++ "\n")

/-! ## Permissions -/

def permissionsOf (granted : Nat) : Char → Nat
  | 'r' => 4
  | 'w' => 2
  | 'x' => 1
  | 'u' => granted / 64
  | 'g' => granted / 8
  | 'o' => granted
  | 'X' => if granted &&& 0o111 = 0 then 0 else 1
  | _ => 0

/-- The places of the users that letters stand for, one in each group of bits. -/
def usersOf (letters : List Char) : Nat :=
  letters.foldl
    (fun places letter => places ||| match letter with
      | 'u' => 0o100
      | 'g' => 0o010
      | 'o' => 0o001
      | _ => 0o111)
    0

/-- The permissions that are granted after the changes that a text spells; none if it
spells no changes.  `users` are those that were named already, and `count` bounds the
number of steps. -/
def changedPermissions (granted : Nat) : Nat → Nat → Nat → List Char → Option Nat
  | 0, _, current, _ | _, _, current, [] => some current
  | count + 1, users, current, text =>
      let named := text.takeWhile "augo".toList.contains
      let users := users ||| usersOf named
      let users := if users = 0 then 0o111 else users
      match text.drop named.length with
      | [] => none
      | sign :: rest =>
          if !"=+-".toList.contains sign then none
          else
            let letters := rest.takeWhile "rwxugoXs".toList.contains
            let value := letters.foldl (fun value letter => value ||| permissionsOf granted letter) 0
            let bits := (value % 8) * users
            let changed :=
              if sign = '-' then current &&& (0o777 ^^^ bits)
              else if sign = '=' then bits ||| (current &&& (0o777 ^^^ (users * 7)))
              else current ||| bits
            match rest.drop letters.length with
            | ',' :: others => changedPermissions granted count 0 changed others
            | [] => some changed
            | next :: others =>
                if "=+-".toList.contains next then
                  changedPermissions granted count users changed (next :: others)
                else none

def permissionLetters (granted : Nat) : String :=
  (if granted &&& 4 = 0 then "" else "r") ++ (if granted &&& 2 = 0 then "" else "w") ++
    if granted &&& 1 = 0 then "" else "x"

def changeMask (arguments : List String) : Action Nat := do
  let (options, operands) ← takeOptions "S" arguments
  let mask ← Program.askSelf Process.mask
  let granted := 0o777 ^^^ mask
  let setTo (mask : Nat) : Action Nat := do
    Program.changeSelf fun process => { process with mask }
    return 0
  match operands with
  | [] =>
      if options ≠ [] then
        put ("u=" ++ permissionLetters (granted / 64) ++ ",g=" ++
          permissionLetters (granted / 8) ++ ",o=" ++ permissionLetters granted ++ "\n")
      else
        let digits := Nat.toDigits 8 mask
        put (String.ofList (List.replicate (4 - digits.length) '0' ++ digits) ++ "\n")
  | text :: _ =>
      let characters := text.toList
      if characters.head?.any Char.isDigit then
        if !characters.all isOctal then fail ("Illegal number: " ++ text)
        setTo (octalValue characters % 0o1000)
      else
        match changedPermissions granted characters.length 0 granted characters with
        | some granted => setTo (0o777 ^^^ granted)
        | none => fail ("Illegal mode: " ++ text)

/-! ## Limits -/

/-- The limits by their letters, with what they limit and what they are unless they are
set. -/
def knownLimits : List (Char × String × String) :=
  [('t', "time(seconds)", "unlimited"), ('f', "file(blocks)", "unlimited"),
    ('d', "data(kbytes)", "unlimited"), ('s', "stack(kbytes)", "8192"),
    ('c', "coredump(blocks)", "0"), ('m', "memory(kbytes)", "unlimited"),
    ('l', "locked memory(kbytes)", "8192"), ('p', "process", "unlimited"),
    ('n', "nofiles", "1024"), ('v', "vmemory(kbytes)", "unlimited"),
    ('w', "locks", "unlimited"), ('r', "rtprio", "0")]

def changeLimit (arguments : List String) : Action Nat := do
  let (options, operands) ← takeOptions "HSatfdscmlpnvwr" arguments
  let letters := options.map Prod.fst
  let held ← own Own.limits
  let value (letter : Char) (usual : String) : String := (held.lookup letter).getD usual
  let letter := (letters.reverse.find? fun letter => !"HSa".toList.contains letter).getD 'f'
  match operands with
  | [] =>
      if 'a' ∈ letters then
        putLines (knownLimits.map fun (letter, name, usual) =>
          name ++ String.ofList (List.replicate (20 - name.length) ' ') ++ " " ++
            value letter usual)
      else
        let usual := ((knownLimits.lookup letter).map Prod.snd).getD ""
        put (value letter usual ++ "\n")
  | text :: others =>
      if 'a' ∈ letters || others ≠ [] then fail "too many arguments"
      if text ≠ "unlimited" && !text.toList.all Char.isDigit then fail "bad number"
      let isLower := match held.lookup letter with
        | none | some "unlimited" => false
        | some former =>
            text = "unlimited" || Text.number former.toList < Text.number text.toList
      if isLower then fail "error setting limit (Operation not permitted)"
      let shown := if text = "unlimited" then text else Text.decimal (Text.number text.toList)
      change fun state =>
        { state with
          limits := (letter, shown) :: state.limits.filter fun (found, _) => found ≠ letter }
      return 0

end SnippetSandbox.Shell
