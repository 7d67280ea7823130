import SnippetSandbox.Task

/-!
# Finding the tools

Sources are compiled with `javac` and executed with `java`.  Each is looked for
in the home of a development kit first, when one is given, and then on the
search path.  The kit may also hold an archive of its own sources.
-/

namespace SnippetSandbox

open FileSystem Text

/-- The two tools, and the kit they belong to where one is known. -/
structure Toolchain where
  compiler : String
  runtime : String
  home : Option String
  deriving DecidableEq, Repr

/-- What the environment says about where tools are, and where the user is at
home. -/
structure ToolEnvironment where
  kitHome : Option String
  searchPath : Option String
  userHome : Option String
  deriving DecidableEq, Repr

namespace Toolchain

def compilerName : String := "javac"

def runtimeName : String := "java"

/-- The directory that an entry of a search list leads to when its first name is a
tilde: one that leads on from the user's home, when the environment names one. -/
def fromHome? (userHome : Option String) (entry : String) : Option String :=
  match userHome.filter (· ≠ ""), Path.segments entry with
  | some home, "~" :: others => some (Path.joinAll home (others.filter fun name => !Path.isVoid name))
  | _, _ => none

/-- The path that an entry of a search list gives for a tool.  A relative one is
seen from the base, without repeated slashes and dots, unless it leads on from the
user's home. -/
def candidate (userHome : Option String) (base tool entry : String) : String :=
  match fromHome? userHome entry with
  | some directory => Path.join directory tool
  | none =>
      let path := Path.join entry tool
      if Path.isAbsolute path then path else Path.joinAll base (Path.names path)

/-- The paths that a search list, written with colons, gives for a tool. -/
def candidates (userHome : Option String) (base tool list : String) : List String :=
  (splitOn ':' list.toList).map fun entry => candidate userHome base tool (String.ofList entry)

/-- The first executable file that a search list gives for a tool. -/
def search? (disk : Disk) (userHome : Option String) (base tool list : String) :
    Option String :=
  (candidates userHome base tool list).find? disk.isExecutable

/-- A tool in the home of a kit.  The kit's own directory serves both as the
search list and as the base of the relative entries in it. -/
def searchKit? (disk : Disk) (userHome : Option String) (tool home : String) :
    Option String :=
  let directory := Path.join home "bin"
  search? disk userHome directory tool directory

/-- A tool, looked for in the kit and then on the search path. -/
def find (disk : Disk) (environment : ToolEnvironment) (tool : String) :
    Except Failure String :=
  let inKit := environment.kitHome.bind (searchKit? disk environment.userHome tool)
  let onPath := environment.searchPath.bind
    (search? disk environment.userHome disk.current.path tool)
  match inKit.or onPath with
  | some path => .ok path
  | none => .error (.toolchain (.notFound tool))

/-- The kit that a runtime belongs to: two levels above it, links resolved. -/
def homeOf? (disk : Disk) (runtime : String) : Option String :=
  match disk.canonical runtime with
  | .ok path => (Path.parent? path).bind Path.parent?
  | .error _ => none

def ofPaths (disk : Disk) (compiler runtime : String) : Toolchain :=
  { compiler, runtime, home := homeOf? disk runtime }

def detect (disk : Disk) (environment : ToolEnvironment) : Except Failure Toolchain := do
  let compiler ← find disk environment compilerName
  let runtime ← find disk environment runtimeName
  return { compiler, runtime, home := environment.kitHome.or (homeOf? disk runtime) }

/-- The places where a kit may keep the archive of its sources. -/
def archivePlaces (home : String) : List String :=
  [Path.join home "src.zip", Path.join (Path.join home "lib") "src.zip"] ++
    ((Path.parent? home).map (Path.join · "src.zip")).toList

/-- The archive of the kit's sources, if there is one. -/
def sourceArchive? (disk : Disk) (toolchain : Toolchain) : Option String :=
  toolchain.home.bind fun home => (archivePlaces home).find? disk.isFile

end Toolchain

end SnippetSandbox
