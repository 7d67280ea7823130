import SnippetSandbox.Config.Store
import SnippetSandbox.Console.Arguments
import SnippetSandbox.Console.Transcript
import SnippetSandbox.Run.Sandbox
import SnippetSandbox.Run.Tools
import SnippetSandbox.Source.EntryPoint
import SnippetSandbox.Workspace.Lock

/-!
# Carrying out a command line

A run first makes sure of everything it needs without touching the disk: the
sources can be read, the configuration loads, the tools are there.  It then
takes the workspace's lock, runs the sources and reports how it ended.  A reset
takes the lock as well; showing the flags changes nothing.
-/

namespace SnippetSandbox.Console

open Analysis FileSystem Supervision Run

/-- Why a command ended early. -/
inductive Refusal
  | unreadable (file : String) (cause : Cause)
  | failed (failure : Failure)
  deriving DecidableEq, Repr

def Refusal.message : Refusal → String
  | .unreadable file cause =>
      "Failed to read " ++ file ++ "\n\nCaused by:\n    " ++ cause.message
  | .failed failure => failure.withHint

def Refusal.code : Refusal → Nat
  | .failed .clockOverflow => 101
  | _ => 1

/-- Where a command works and with what. -/
structure Setting where
  machine : Machine
  tools : ToolEnvironment
  workspace : Workspace
  seed : Seed
  configFile : String

/-- The part of a command that can be refused. -/
abbrev Step := ExceptT Refusal (StateM Disk)

def perform {Result : Type} (task : SnippetSandbox.Task Result) : Step Result := fun disk =>
  let (answer, changed) := task disk
  (answer.mapError .failed, changed)

def readSources : List String → Step (List String)
  | [] => return []
  | file :: others => do
      let text ← fun disk =>
        let (answer, changed) := readText file disk
        (answer.mapError (.unreadable file), changed)
      return text :: (← readSources others)

/-- What a run needs to know before it begins. -/
structure Preparation where
  sources : List String
  config : Config
  toolchain : Toolchain
  archive : Option String

def prepare (setting : Setting) (files : List String) : Step Preparation := do
  let sources ← readSources files
  let config ← perform (Config.load setting.configFile)
  let disk ← get
  match Toolchain.detect disk setting.tools with
  | .error failure => throw (.failed failure)
  | .ok toolchain =>
      return { sources, config, toolchain, archive := toolchain.sourceArchive? disk }

/-- The sandbox that works with the tools and the stored configuration. -/
def sandbox (setting : Setting) (preparation : Preparation) : Sandbox Gauge where
  workspace := setting.workspace
  seed := setting.seed
  archive := preparation.archive
  collaborators :=
    { compile := fun files outputDir =>
        .ofTask (compileWith setting.machine preparation.toolchain
          preparation.config.compileTimeout files outputDir)
      execute := fun entry places options =>
        .ofTask (executeWith setting.machine preparation.toolchain
          preparation.config.executeTimeout entry places options)
      save := fun config => .ofTask (config.save setting.configFile)
      forget := fun surroundings => { surroundings with memory := surroundings.memory.forget }
      ingest := fun logFile surroundings =>
        let (answer, memory) := surroundings.memory.ingest logFile surroundings.disk
        (answer, { surroundings with memory })
      lookup := fun name surroundings => surroundings.memory.lookup name
      detect := Source.hasMainSignature }

def opening (workspace : Workspace) : Shown :=
  line ("\n" ++ Style.cyan.apply "Sandbox" ++ " " ++ Style.bold.apply workspace.sandboxDir)

def closing (gauge : Gauge) : Outcome → Transcript
  | .located _ =>
      { output := [.text (Style.green.apply "Completed" ++ " in "), .seconds,
          line ("s (" ++ Text.decimal gauge.ingestedBytes ++ " bytes of compilation log)")] }
  | .noEntryPoint =>
      { output := [line (Style.yellow.apply "Compiled only:" ++
          " no source declares `public static void main(`")] }
  | .compilationFailed _ => { errors := Style.red.apply "Compilation failed" ++ "\n", code := 1 }
  | .executionFailed _ => { errors := Style.red.apply "Execution failed" ++ "\n", code := 1 }

def refused (refusal : Refusal) : Transcript :=
  { errors := "Error: " ++ refusal.message ++ "\n", code := refusal.code }

def Transcript.behind (transcript : Transcript) (output : List Shown) (errors : String) :
    Transcript :=
  { transcript with
    output := output ++ transcript.output, errors := errors ++ transcript.errors }

def runPrepared (setting : Setting) (quiet : Bool) (preparation : Preparation) (disk : Disk) :
    Transcript × Disk :=
  let start : State Gauge :=
    { surroundings := { disk, memory := {} }, config := preparation.config }
  let (result, final) := (sandbox setting preparation).run preparation.sources start
  let told := notices final.events
  let ending := match result with
    | .ok outcome => closing final.surroundings.memory outcome
    | .error failure => refused (.failed failure)
  (ending.behind (opening setting.workspace :: (told.map (shownNotice quiet)).flatten)
      (String.join (told.map noticeErrors)),
    final.surroundings.disk)

/-- Do something that needs the workspace's lock, and give the lock back. -/
def locked (workspace : Workspace) (work : Disk → Transcript × Disk) : Step Transcript := do
  let key ← perform workspace.lock
  fun disk =>
    let (transcript, changed) := work disk
    (.ok transcript, Workspace.unlock key changed)

def runFiles (setting : Setting) (files : List String) (quiet : Bool) : Step Transcript := do
  let preparation ← prepare setting files
  locked setting.workspace (runPrepared setting quiet preparation)

def resetWorkspace (setting : Setting) : Step Transcript :=
  locked setting.workspace fun disk =>
    match setting.workspace.reset setting.seed disk with
    | (.ok (), changed) =>
        ({ output := [line (Style.green.apply "Reset" ++ " " ++ setting.workspace.sourceDir)] },
          changed)
    | (.error failure, changed) => (refused (.failed failure), changed)

def showOptions (setting : Setting) : Step Transcript := do
  let config ← perform (Config.load setting.configFile)
  return { output := (Flags.build config setting.workspace.logFile).map line }

def Task.carryOut (setting : Setting) : Task → Step Transcript
  | .run files quiet => runFiles setting files quiet
  | .reset => resetWorkspace setting
  | .options => showOptions setting

def Request.carryOut (machine : Machine) (tools : ToolEnvironment) (disk : Disk) :
    Request → Transcript × Disk
  | .misused => ({ code := 2 }, disk)
  | .version => ({ output := [line "jitbox 0.1.0"] }, disk)
  | .perform task options =>
      let root := options.root.getD disk.current.path
      match Workspace.at? disk.current.path root with
      | .error failure => (refused (.failed failure), disk)
      | .ok workspace =>
          let setting : Setting :=
            { machine, tools, workspace
              seed := (options.seed.map Seed.directory).getD .bundled
              configFile := options.config.getD (Path.join root "jitbox.json") }
          match task.carryOut setting disk with
          | (.ok transcript, changed) => (transcript, changed)
          | (.error refusal, changed) => (refused refusal, changed)

/-- What a command line leaves on the terminal and on the disk. -/
def carryOut (machine : Machine) (tools : ToolEnvironment) (arguments : List String)
    (disk : Disk) : Transcript × Disk :=
  (Request.ofArguments arguments).carryOut machine tools disk

end SnippetSandbox.Console
