import SnippetSandbox.Flags
import SnippetSandbox.Run.Classpath
import SnippetSandbox.Run.Collaborators
import SnippetSandbox.Run.Outcome
import SnippetSandbox.Run.Registration
import SnippetSandbox.Run.Session
import SnippetSandbox.Workspace.Ready

/-!
# Running snippets in a sandbox

A sandbox takes source texts through the stages of a run.  Each stage either
leads to a later one or stops with an outcome; a failure ends the run from any
stage.  Rejected sources and programs that end badly are outcomes.
-/

namespace SnippetSandbox.Run

open Analysis FileSystem

/-- A workspace with those who work for it. -/
structure Sandbox (Memory : Type) where
  workspace : Workspace
  seed : Seed := .bundled
  collaborators : Collaborators Memory
  /-- The archive of the runtime's own sources. -/
  archive : Option String := none

/-- Everything that changes during a run. -/
structure State (Memory : Type) where
  surroundings : Surroundings Memory
  config : Config
  session : Session := {}
  events : List Event := []
  stages : List Stage := []

/-- A part of a run. -/
abbrev Action (Memory : Type) := ExceptT Failure (StateM (State Memory))

variable {Memory Result : Type}

def happen (event : Event) : Action Memory Unit :=
  modify fun state => { state with events := state.events ++ [event] }

def tell (notice : Notice) : Action Memory Unit :=
  happen (.told notice)

def report (line : String) : Action Memory Unit :=
  tell (.progress line)

def call (request : Call Memory Result) : Action Memory Result := fun state =>
  let (answer, surroundings) := request state.surroundings
  (answer, { state with surroundings })

def onDisk (task : Task Result) : Action Memory Result :=
  call (.ofTask task)

def verdict (success : Bool) : String :=
  if success then "true" else "false"

namespace Sandbox

variable (sandbox : Sandbox Memory)

/-- Write texts one after another, up to the first that cannot be written. -/
def writeSources : List String → Action Memory Unit
  | [] => pure ()
  | text :: others => do
      let snippet ← onDisk
        (Snippet.write sandbox.workspace.sourceDir sandbox.collaborators.detect text)
      if snippet.isEntry then
        report ("Found main method in " ++ snippet.name)
      report ("Writing source file: " ++ snippet.name ++ ".java")
      modify fun state => { state with session := state.session.record snippet }
      writeSources others

def compile : Action Memory (Step .compiling) := do
  let files := (← get).session.files
  report ("Compiling: " ++ ", ".intercalate files)
  happen (.compile files sandbox.workspace.classDir)
  let result ← call (sandbox.collaborators.compile files sandbox.workspace.classDir)
  report ("Compilation success: " ++ verdict result.success)
  if !result.success then
    tell (.trouble result.messages)
    return .stop (.compilationFailed result.messages)
  match (← get).session.entry with
  | some _ => return .advance .executing (by decide)
  | none => return .advance .noEntryPoint (by decide)

/-- Remove the log of an earlier run, so that it cannot be taken for a new one. -/
def removeOldLog : Action Memory Unit := do
  let log := sandbox.workspace.logFile
  if ← onDisk (.ask (·.pathExists log)) then
    onDisk ((removeFile log).reportedFor log)

/-- Execute a program with the classpath and the flags of the configuration. -/
def executeEntry (entry : String) : Action Memory (Step .executing) := do
  let config := (← get).config
  let places := Classpath.entries sandbox.workspace.classDir config.classLocations
  let flags := Flags.build config sandbox.workspace.logFile
  report ("Executing: " ++ entry)
  match Classpath.join places with
  | .error problem => throw (.toolchain problem)
  | .ok classpath => report ("Classpath: " ++ classpath)
  report ("VM options: " ++ Flags.line flags)
  sandbox.removeOldLog
  let logPresent ← onDisk (.ask (·.pathExists sandbox.workspace.logFile))
  happen (.execute entry places flags logPresent)
  let result ← call (sandbox.collaborators.execute entry places flags)
  report ("Execution success: " ++ verdict result.success)
  if !result.success then
    tell (.trouble result.errorOutput)
    return .stop (.executionFailed result.errorOutput)
  return .advance .ingesting (by decide)

def ingest (logFile : String) : Action Memory Unit := do
  happen (.ingest logFile)
  call (sandbox.collaborators.ingest logFile)

def forget : Action Memory Unit := do
  happen .forget
  modify fun state =>
    { state with surroundings := sandbox.collaborators.forget state.surroundings }

/-- Register the workspace in the configuration; the result tells whether it
changed. -/
def registerPaths : Action Memory Bool := do
  let (config, changed) := register sandbox.workspace sandbox.archive (← get).config
  modify fun state => { state with config }
  return changed

/-- Register the workspace, store a configuration that changed, and show the log
to the analysis afresh. -/
def synchronize : Action Memory Bool := do
  let changed ← sandbox.registerPaths
  if changed then
    let config := (← get).config
    happen (.save config)
    call (sandbox.collaborators.save config)
  sandbox.forget
  sandbox.ingest sandbox.workspace.logFile
  return changed

def locate (className : String) : Action Memory (Option Member) := do
  report ("Looking up class: " ++ className)
  happen (.lookup className)
  let member ← match sandbox.collaborators.lookup className (← get).surroundings with
    | none => pure none
    | some found => do
        report ("Found: " ++ found.name)
        report "Looking for compiled members"
        pure found.firstCompiled
  tell (.navigation member)
  return member

def locateFirst : Action Memory (Option Member) := do
  match (← get).session.first with
  | some name => sandbox.locate name
  | none =>
      tell (.navigation none)
      return none

/-- Go through one stage. -/
def step (sources : List String) : (stage : Stage) → Action Memory (Step stage)
  | .writing => do
      sandbox.writeSources sources
      return .advance .compiling (by decide)
  | .compiling => sandbox.compile
  | .executing => do
      match (← get).session.entry with
      | none => return .advance .noEntryPoint (by decide)
      | some entry => sandbox.executeEntry entry
  | .noEntryPoint => do
      report "No main method found"
      return .stop .noEntryPoint
  | .ingesting => do
      let _ ← sandbox.synchronize
      report "Parsing complete"
      return .advance .locating (by decide)
  | .locating => do
      return .stop (.located (← sandbox.locateFirst))
  | .done => throw (.invalidOperation (.terminalStage .done))
  | .aborted => throw (.invalidOperation (.terminalStage .aborted))

def enter (sources : List String) (stage : Stage) : Action Memory (Step stage) := do
  modify fun state => { state with stages := state.stages ++ [stage] }
  sandbox.step sources stage

/-- Go through the stages from this one on. -/
def runFrom (sources : List String) (stage : Stage) : Action Memory Outcome := do
  match ← sandbox.enter sources stage with
  | .advance next _later => runFrom sources next
  | .stop outcome => return outcome
termination_by stage.remaining

/-- Make the workspace ready and run source texts in a new session. -/
def run (sources : List String) : Action Memory Outcome := do
  let _ ← onDisk (sandbox.workspace.ensureReady sandbox.seed)
  modify fun state => { state with session := {}, stages := [] }
  sandbox.runFrom sources .writing

end Sandbox

end SnippetSandbox.Run
