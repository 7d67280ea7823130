import SnippetSandbox.Proofs.Console.Exclusion
import SnippetSandbox.Proofs.Console.Standing
import SnippetSandbox.Proofs.Console.Success

/-!
# Which registrations survive

A run that has loaded what was stored before the other one saved will save over it.  So what
the first of two runs registered survives if the second one began late enough, if it has
nothing to save, or if it registers the same; and only then.
-/

namespace SnippetSandbox.Console

open FileSystem Workspace Run Analysis

section Survival

variable {runners : Bool → Runner} {workspace : Workspace} {begun : Except Failure Config}
variable {pair : Pair} {passed : List Pair}

/-- What is stored in the end has everything registered just when the second one had loaded
what the first one saved, had nothing to save, or registers what the first one did. -/
theorem HasLoaded.isRegistered_iff {first : Bool} {one two : Preparation}
    (hasLoaded : HasLoaded workspace begun first passed one two)
    (loaded : begun = .ok one.config) {last : Config}
    (isLast : last = if (register workspace two.archive two.config).2
      then (register workspace two.archive two.config).1
      else (register workspace one.archive one.config).1) :
    IsRegistered workspace one.archive last ∧ IsRegistered workspace two.archive last ↔
      IsLate first passed ∨ IsRegistered workspace two.archive one.config ∨
        IsRegistered workspace one.archive (register workspace two.archive one.config).1 := by
  have registers := isRegistered_register workspace one.archive one.config
  rcases hasLoaded with ⟨late, further⟩ | ⟨notLate, before⟩
  · refine iff_of_true ?_ (.inl late)
    have whole : last = (register workspace two.archive
        (register workspace one.archive one.config).1).1 := by
      rw [isLast, further]
      split
      next => rfl
      next same =>
        have complete := register_unchanged.mp (Bool.eq_false_iff.mpr same)
        rw [register_eq_self complete]
    rw [whole]
    exact ⟨registers.further two.archive, isRegistered_register _ _ _⟩
  rw [← Except.ok.inj (loaded.symm.trans before)] at isLast
  cases changed : (register workspace two.archive one.config).2 with
  | false =>
      have complete := register_unchanged.mp changed
      rw [isLast, changed, if_neg (by simp)]
      exact iff_of_true ⟨registers, complete.further one.archive⟩ (.inr (.inl complete))
  | true =>
      have incomplete : ¬ IsRegistered workspace two.archive one.config := by
        rw [← register_unchanged, changed]
        simp
      rw [isLast, changed, if_pos rfl, and_iff_left (isRegistered_register _ _ _),
        or_iff_right notLate, or_iff_right incomplete]

/-- **Of two runs, the second one loses what the first one registered if it loaded too early.**
Each of the runs, when left alone, does what its command does.  Where both of them, step by
step in any order, complete with a member located, one of them has gone through its stages
before the other one had the lock.  What both have registered is stored in the end just when
the second one had not even begun before the first one had saved, or had nothing to save, or
registers what the first one did as well.  Otherwise it saves what it had loaded before it had
the lock, with its own registered, over what the first one saved. -/
theorem updates_survive_iff {root : String} {ground : Place} {back : List String} {disk : Disk}
    {finish : Bool → Finish} (absolute : Path.isAbsolute root = true)
    (inside : ∀ i, (runners i).setting.workspace = .inside root)
    (spares : ∀ i, (runners i).setting.machine.Spares root ground back)
    (shared : IsShared root ground back disk) (free : disk.locked = [])
    (stored : Stores runners disk begun) (history : History runners disk pair passed)
    (ended : ∀ i, pair.progress i = .ended (.ok (finish i)))
    (located : ∀ i, ∃ member, (finish i).result = .ok (.located member)) :
    (∀ i quiet alone, ∃ answer,
      Progress.Leads (runners i).setting (runners i).files (.idle, alone)
        (.ended answer, (runFiles (runners i).setting (runners i).files quiet alone).2) ∧
      (runFiles (runners i).setting (runners i).files quiet alone).1 =
        answer.map fun finish =>
          shownRun (runners i).setting quiet (finish.result, finish.known)) ∧
    ∃ first config last, begun = .ok config ∧ Stores runners pair.disk (.ok last) ∧
      IsFirst first passed ∧
      ((∀ i, IsRegistered (.inside root) (finish i).preparation.archive last) ↔
        IsLate first passed ∨
          IsRegistered (.inside root) (finish !first).preparation.archive config ∨
          IsRegistered (.inside root) (finish first).preparation.archive
            (register (.inside root) (finish !first).preparation.archive config).1) := by
  refine ⟨fun i quiet alone => Progress.leads_runFiles alone quiet, ?_⟩
  have saved (i : Bool) : (pair.progress i).mark = .saved (finish i).preparation := by
    obtain ⟨member, isLocated⟩ := located i
    rw [ended i]
    generalize finish i = finish at isLocated
    obtain ⟨preparation, result, known⟩ := finish
    cases isLocated
    rfl
  have standing := (history.standing absolute inside spares shared free stored).2
  cases standing with
  | lost i isLost =>
      rw [saved i] at isLost
      cases isLost
  | unsaved stored pending nobody => exact absurd ⟨_, saved true⟩ (nobody pair history.mem true)
  | once first isSaved loaded stored isFirst unsaved => exact absurd ⟨_, saved _⟩ unsaved
  | twice first isSaved loaded isFirst isSavedToo hasLoaded storedLast =>
      cases (saved first).symm.trans isSaved
      cases (saved !first).symm.trans isSavedToo
      refine ⟨first, _, _, loaded, storedLast, isFirst, ?_⟩
      rw [← hasLoaded.isRegistered_iff loaded rfl]
      cases first <;> simp [and_comm]

end Survival

section Overlapping

open Supervision

/-- A machine whose tools end well and leave an empty log. -/
def loggingMachine : Machine where
  launch _ disk := .ok
    { ending := fun _ => some (.exited 0)
      progress := fun _ =>
        { disk := (writeText (inside "/").logFile "" disk).2, output := .empty, errors := .empty } }
  environment := []
  clock := .steady 0

def kitHome : Bool → String
  | false => "/a"
  | true => "/b"

/-- Two who run one file, each with a kit of its own. -/
def overlapping (i : Bool) : Runner where
  setting :=
    { machine := loggingMachine
      tools := { kitHome := some (kitHome i), searchPath := none, userHome := none }
      workspace := inside "/"
      seed := .none
      configFile := "/jitbox.json" }
  files := ["/A.java"]
  current := []

def mainText : String := "class A { public static void main(String[] a) {} }"

def mainSnippet : Snippet := ⟨mainText, "", "A", true, "/sandbox/sources/A.java"⟩

def kit : Node := .directory
  [("bin", .directory [("javac", .file 4 .empty true), ("java", .file 5 .empty true)]),
    ("src.zip", .file 6 .empty false)]

/-- A disk with both kits, with something in front of them. -/
def desk (front : Folder) (next : Nat) (locked : List FileKey) : Disk where
  tree := ⟨front ++ [("A.java", .file 0 mainText.toUTF8 false), ("a", kit), ("b", kit)], next⟩
  current := []
  locked := locked

def lockItem : String × Node := ("sandbox.lock", .file 1 .empty false)

def configItem (bytes : ByteArray) : String × Node := ("jitbox.json", .file 2 bytes false)

def logItem (log : Nat) : String × Node := ("sandbox.log", .file log .empty false)

def sourcesItem : String × Node :=
  ("sources", .directory [("A.java", .file 3 mainText.toUTF8 false)])

def classesItem : String × Node := ("classes", .directory [])

section Desks

variable (bytes : ByteArray) (log next : Nat)

/-- The disk between two runs, and what a run makes of it: it takes the lock, writes its source,
executes, which makes the log anew, and saves. -/
def atRest (locked : List FileKey) : Disk :=
  desk [configItem bytes, ("sandbox", .directory [logItem log, sourcesItem, classesItem]),
    lockItem] next locked

def whenLocked : Disk :=
  desk [lockItem, configItem bytes,
    ("sandbox", .directory [logItem log, sourcesItem, classesItem])] next [.file 1]

def whenWritten : Disk :=
  desk [("sandbox", .directory [sourcesItem, logItem log, classesItem]), lockItem,
    configItem bytes] next [.file 1]

def whenUnlogged : Disk :=
  desk [("sandbox", .directory [sourcesItem, classesItem]), lockItem, configItem bytes] next
    [.file 1]

def whenLogged : Disk :=
  desk [("sandbox", .directory [logItem log, sourcesItem, classesItem]), lockItem,
    configItem bytes] next [.file 1]

theorem lock_atRest : (inside "/").lock (atRest bytes log next []) =
    (.ok (.file 1), whenLocked bytes log next) := by
  have found : (atRest bytes log next []).tree.find (atRest bytes log next []).current .newFile
      (inside "/").lockFile = .ok (.present ["sandbox.lock"] (.file 1 .empty false)) :=
    Tree.find_absolute ["", "sandbox.lock"] (by decide) (by cbv)
  have opens : openForWriting (inside "/").lockFile false false (atRest bytes log next []) =
      (.ok (.file ["sandbox.lock"] 1 false), { whenLocked bytes log next with locked := [] }) := by
    refine attempt_of_ok rfl ?_
    rw [found]
    rfl
  exact lock_of_opened rfl opens rfl List.not_mem_nil

theorem ready_whenLocked : (inside "/").ensureReady .none (whenLocked bytes log next) =
    (.ok false, whenLocked bytes log next) := by
  have present : (whenLocked bytes log next).find (inside "/").sourceDir =
      .ok (.present ["sources", "sandbox"] .directory) :=
    Tree.find_absolute ["", "sandbox", "sources"] (by decide) (by cbv)
  refine ensureReady_of_there (Disk.pathExists_iff.mpr ⟨_, _, present⟩)
    (makeDirectories_of_present rfl (by decide)
      (Tree.find_absolute ["", "sandbox", "classes"] (by decide) (by cbv))
      (Tree.find_absolute ["", "sandbox", "classes"] (by decide) (by cbv)))

theorem write_whenLocked : Snippet.write (inside "/").sourceDir Source.hasMainSignature mainText
    (whenLocked bytes log next) = (.ok mainSnippet, whenWritten bytes log next) := by
  have inPackage : Source.packageOf mainText = .ok "" := by cbv
  have declared : Source.typeNameOf mainText = .ok "A" := by cbv
  have isMain : Source.hasMainSignature mainText = true := by decide
  have path : Snippet.file (inside "/").sourceDir "" "A" = "/sandbox/sources/A.java" := by
    decide
  have named : Snippet.ofText (inside "/").sourceDir Source.hasMainSignature mainText =
      .ok mainSnippet := by
    rw [Snippet.ofText_of_ok inPackage declared, isMain, path, mainSnippet]
  have made : makeDirectories (Snippet.directory (inside "/").sourceDir "")
      (whenLocked bytes log next) = (.ok (), whenLocked bytes log next) :=
    makeDirectories_of_present rfl (by decide)
      (Tree.find_absolute ["", "sandbox", "sources"] (by decide) (by cbv))
      (Tree.find_absolute ["", "sandbox", "sources"] (by decide) (by cbv))
  have found : (whenLocked bytes log next).tree.find [] .newFile "/sandbox/sources/A.java" =
      .ok (.present ["A.java", "sources", "sandbox"] (.file 3 mainText.toUTF8 false)) :=
    Tree.find_absolute ["", "sandbox", "sources", "A.java"] (by decide) (by cbv)
  exact Snippet.write_of_ok named made (writeText_of_present rfl found mainText)

theorem log_whenWritten : writeText (inside "/").logFile "" (whenWritten bytes log next) =
    (.ok (), whenLogged bytes log next) := by
  have found : (whenWritten bytes log next).tree.find [] .newFile (inside "/").logFile =
      .ok (.present ["sandbox.log", "sandbox"] (.file log .empty false)) :=
    Tree.find_absolute ["", "sandbox", "sandbox.log"] (by decide) (by cbv)
  exact writeText_of_present rfl found ""

theorem find_log : (whenLogged bytes log next).find (inside "/").logFile =
    .ok (.present ["sandbox.log", "sandbox"] (.file log .empty false)) :=
  Tree.find_absolute ["", "sandbox", "sandbox.log"] (by decide) (by cbv)

theorem remove_whenLogged : removeFile (inside "/").logFile (whenLogged bytes log next) =
    (.ok (), whenUnlogged bytes next) := by
  have found : (whenLogged bytes log next).findName (inside "/").logFile =
      .ok (.present ["sandbox.log", "sandbox"] (.file log .empty false)) :=
    Tree.find_absolute ["", "sandbox", "sandbox.log"] (by decide) (by cbv)
  refine attempt_of_ok rfl ?_
  rw [found]
  dsimp only
  rw [if_neg (by decide)]
  rfl

theorem log_whenUnlogged : writeText (inside "/").logFile "" (whenUnlogged bytes next) =
    (.ok (), whenLogged bytes next (next + 1)) := by
  have found : (whenUnlogged bytes next).tree.find [] .newFile (inside "/").logFile =
      .ok (.absent ["sandbox.log", "sandbox"] false) :=
    Tree.find_absolute ["", "sandbox", "sandbox.log"] (by decide) (by cbv)
  exact writeText_of_absent rfl found ""

theorem save_whenLogged (config : Config) :
    config.save "/jitbox.json" (whenLogged bytes log next) =
      (.ok (), atRest config.render.toUTF8 log next [.file 1]) := by
  have parent : Path.parent? "/jitbox.json" = some "/" := by decide
  have found : (whenLogged bytes log next).tree.find [] .newFile "/jitbox.json" =
      .ok (.present ["jitbox.json"] (.file 2 bytes false)) :=
    Tree.find_absolute ["", "jitbox.json"] (by decide) (by cbv)
  have written := writeText_of_present rfl found config.render
  rw [Config.save, parent]
  dsimp only
  rw [Effect.bind_of_ok (reportedFor_of_ok (makeDirectories_root rfl)), reportedFor_of_ok written]
  rfl

theorem size_atRest (locked : List FileKey) :
    (atRest bytes log next locked).size (inside "/").logFile = .ok 0 := by
  have found : (atRest bytes log next locked).find (inside "/").logFile =
      .ok (.present ["sandbox.log", "sandbox"] (.file log .empty false)) :=
    Tree.find_absolute ["", "sandbox", "sandbox.log"] (by decide) (by cbv)
  rw [Disk.size, Disk.entryAt?, found]
  rfl

end Desks

section Tools

theorem runBounded_logging (command : Command) {limit : Time.Span}
    (inTime : limit.nanoseconds / Time.Span.perSecond < Clock.secondLimit) (disk : Disk) :
    runBounded loggingMachine command limit disk =
      (.ok ⟨some (.exited 0), "", ""⟩, (writeText (inside "/").logFile "" disk).2) := by
  have deadline : (Clock.steady 0).deadline? limit = some (0 + limit.nanoseconds) := by
    rw [Clock.deadline?]
    simp [Clock.steady, inTime]
  have watched : watch (.steady 0) (0 + limit.nanoseconds) (fun _ => .ok (some (.exited 0)))
      (.ok ()) 0 = ⟨[.poll], 0, .ok (some (.exited 0))⟩ := by
    rw [watch]
  have blank : Text.lossyText (.empty ++ .empty) = "" := by cbv
  rw [runBounded, supervise]
  dsimp only [loggingMachine]
  rw [deadline]
  dsimp only
  rw [watched]
  dsimp only
  rw [blank]

theorem compileWith_logging (toolchain : Toolchain) (files : List String) (outputDir : String)
    (disk : Disk) :
    compileWith loggingMachine toolchain Config.standard.compileTimeout files outputDir disk =
      (.ok ⟨true, ""⟩, (writeText (inside "/").logFile "" disk).2) :=
  (Effect.bind_of_ok (runBounded_logging _ (by decide) _)).trans rfl

theorem executeWith_logging (toolchain : Toolchain) {entry classpath : String}
    {places options : List String} (joined : Classpath.join places = .ok classpath)
    (disk : Disk) :
    executeWith loggingMachine toolchain Config.standard.executeTimeout entry places options disk =
      (.ok ⟨true, ""⟩, (writeText (inside "/").logFile "" disk).2) := by
  rw [executeWith, joined]
  exact (Effect.bind_of_ok (runBounded_logging _ (by decide) _)).trans rfl

end Tools

/-- What one of the two has found out when the standard configuration is stored. -/
def prepared (i : Bool) : Preparation where
  sources := [mainText]
  config := .standard
  toolchain := ⟨Path.join (Path.join (kitHome i) "bin") "javac",
    Path.join (Path.join (kitHome i) "bin") "java", some (kitHome i)⟩
  archive := some (Path.join (kitHome i) "src.zip")

def registered (i : Bool) : Config :=
  (register (inside "/") (prepared i).archive .standard).1

section Preparing

variable (bytes : ByteArray) (log next : Nat) (i : Bool)

theorem isExecutable_kit {tool : String} (isTool : tool = "javac" ∨ tool = "java") :
    (atRest bytes log next []).isExecutable (Path.join (Path.join (kitHome i) "bin") tool) =
      true := by
  cases i <;> rcases isTool with rfl | rfl
  all_goals rw [Disk.isExecutable, Disk.entryAt?, Disk.find]
  · rw [Tree.find_absolute ["", "a", "bin", "javac"] (by decide) (by cbv)]
  · rw [Tree.find_absolute ["", "a", "bin", "java"] (by decide) (by cbv)]
  · rw [Tree.find_absolute ["", "b", "bin", "javac"] (by decide) (by cbv)]
  · rw [Tree.find_absolute ["", "b", "bin", "java"] (by decide) (by cbv)]

theorem isFile_archive :
    (atRest bytes log next []).isFile (Path.join (kitHome i) "src.zip") = true := by
  cases i
  all_goals rw [Disk.isFile, Disk.entryAt?, Disk.find]
  · rw [Tree.find_absolute ["", "a", "src.zip"] (by decide) (by cbv)]
  · rw [Tree.find_absolute ["", "b", "src.zip"] (by decide) (by cbv)]

theorem find_tool {tool : String} (isTool : tool = "javac" ∨ tool = "java") :
    Toolchain.find (atRest bytes log next []) (overlapping i).setting.tools tool =
      .ok (Path.join (Path.join (kitHome i) "bin") tool) := by
  have candidates : Toolchain.candidates none (Path.join (kitHome i) "bin") tool
      (Path.join (kitHome i) "bin") = [Path.join (Path.join (kitHome i) "bin") tool] := by
    cases i <;> rcases isTool with rfl | rfl <;> decide
  have inKit : (overlapping i).setting.tools.kitHome.bind
      (Toolchain.searchKit? (atRest bytes log next []) none tool) =
        some (Path.join (Path.join (kitHome i) "bin") tool) := by
    change Toolchain.searchKit? (atRest bytes log next []) none tool (kitHome i) = _
    rw [Toolchain.searchKit?, Toolchain.search?, candidates]
    exact List.find?_cons_of_pos (isExecutable_kit bytes log next i isTool)
  rw [Toolchain.find]
  dsimp only [overlapping] at inKit ⊢
  rw [inKit]
  rfl

theorem detect_atRest :
    Toolchain.detect (atRest bytes log next []) (overlapping i).setting.tools =
      .ok (prepared i).toolchain := by
  rw [Toolchain.detect, Toolchain.compilerName, Toolchain.runtimeName,
    find_tool _ _ _ _ (.inl rfl), find_tool _ _ _ _ (.inr rfl)]
  rfl

end Preparing

theorem readText_of_there {path text : String} {disk : Disk} {identity : Nat} {executable : Bool}
    (calm : disk.faults = [])
    (there : disk.entryAt? path = .ok (.file identity text.toUTF8 executable)) :
    readText path disk = (.ok text, disk) := by
  have answers := readText_file there (by rw [Disk.nextFault, calm])
  rcases read : readText path disk with ⟨answer, after⟩
  cases ((Disk.Spends.readText path).states read).eq_of_calm calm
  rw [read] at answers
  exact Prod.ext answers rfl

/-- The configuration file holds this configuration, and no fault strikes. -/
structure Holds (config : Config) (disk : Disk) : Prop where
  current : disk.current = []
  calm : disk.faults = []
  there : disk.tree.lookup ["jitbox.json"] = some (.file 2 config.render.toUTF8 false)

namespace Holds

variable {config : Config} {disk : Disk}

theorem entryAt? (holds : Holds config disk) :
    disk.entryAt? "/jitbox.json" = .ok (.file 2 config.render.toUTF8 false) := by
  have void : Path.isVoid "" = true := by decide
  have found : disk.find "/jitbox.json" =
      .ok (.present ["jitbox.json"] (.file 2 config.render.toUTF8 false)) := by
    refine Tree.find_absolute ["", "jitbox.json"] (by decide) ?_
    rw [walk_void void]
    exact walk_entry ⟨by decide, by decide, by decide⟩ holds.there (.inl (by simp))
  rw [Disk.entryAt?, found]

theorem load (holds : Holds config disk) :
    Config.load "/jitbox.json" disk = (.ok config, disk) := by
  rw [Config.load, readText_of_there holds.calm holds.entryAt?]
  simp only [Config.ofFile, Config.parse_render]

theorem stored (holds : Holds config disk) (i : Bool) :
    (overlapping i).stored disk = .ok config := by
  have same : (overlapping i).view disk = disk := by
    have current : (overlapping i).current = disk.current := holds.current.symm
    rw [Runner.view, current]
  rw [Runner.stored, same, Config.stored_eq_load holds.calm]
  exact congrArg Prod.fst holds.load

end Holds

theorem prepare_atRest (log next : Nat) (i : Bool) :
    prepare (overlapping i).setting (overlapping i).files
      (atRest Config.standard.render.toUTF8 log next []) =
        (.ok (prepared i), atRest Config.standard.render.toUTF8 log next []) := by
  have holds : Holds .standard (atRest Config.standard.render.toUTF8 log next []) :=
    ⟨rfl, rfl, rfl⟩
  have detects := detect_atRest Config.standard.render.toUTF8 log next i
  have archives := isFile_archive Config.standard.render.toUTF8 log next i
  have source : (atRest Config.standard.render.toUTF8 log next []).entryAt? "/A.java" =
      .ok (.file 0 mainText.toUTF8 false) := by
    generalize Config.standard.render.toUTF8 = bytes
    have found : (atRest bytes log next []).find "/A.java" =
        .ok (.present ["A.java"] (.file 0 mainText.toUTF8 false)) :=
      Tree.find_absolute ["", "A.java"] (by decide) (by cbv)
    rw [Disk.entryAt?, found]
  generalize atRest Config.standard.render.toUTF8 log next [] = disk at *
  have reads : readSources (overlapping i).files disk = (.ok [mainText], disk) := by
    change readSources ["/A.java"] disk = _
    rw [readSources, readSources]
    refine Effect.bind_of_ok ?_
    rw [readText_of_there holds.calm source]
    rfl
  have loads : perform (Config.load (overlapping i).setting.configFile) disk =
      (.ok .standard, disk) := by
    change perform (Config.load "/jitbox.json") disk = _
    rw [perform, holds.load]
    rfl
  have found : (prepared i).toolchain.sourceArchive? disk = (prepared i).archive :=
    List.find?_cons_of_pos archives
  rw [prepare, Effect.bind_of_ok reads, Effect.bind_of_ok loads]
  refine (Effect.bind_of_ok rfl).trans ?_
  rw [detects]
  dsimp only
  rw [found]
  rfl

/-- One step of a run that leaves the configuration file in its place. -/
def Follows (i : Bool) (now later : Progress × Disk) : Prop :=
  now.1.next (overlapping i).setting (overlapping i).files now.2 = later ∧
    ∃ before after, Holds before now.2 ∧ Holds after later.2 ∧
      (now.1.isSave = false → after = before)

/-- What is known between the stages of a run. -/
structure Knows (known : State Gauge) : Prop where
  config : known.config = .standard
  entry : known.session.entry = some "A"

section Following

variable (i : Bool) (config : Config) (log next : Nat)

theorem follows_lock : Follows i
    (.loaded (prepared i), atRest config.render.toUTF8 log next [])
    (.locked (.file 1) (prepared i), whenLocked config.render.toUTF8 log next) := by
  refine ⟨?_, config, config, ⟨rfl, rfl, rfl⟩, ⟨rfl, rfl, rfl⟩, fun _ => rfl⟩
  rw [Progress.next]
  dsimp only [overlapping]
  rw [lock_atRest]

theorem follows_ready : ∃ known : State Gauge, known.config = .standard ∧ known.session = {} ∧
    Follows i (.locked (.file 1) (prepared i), whenLocked config.render.toUTF8 log next)
      (.running (.file 1) (prepared i) .writing known,
        whenLocked config.render.toUTF8 log next) :=
  ⟨_, rfl, rfl, Progress.next_locked (ready_whenLocked _ log next), config, config,
    ⟨rfl, rfl, rfl⟩, ⟨rfl, rfl, rfl⟩, fun _ => rfl⟩

variable {known : State Gauge}

theorem follows_writing (isConfig : known.config = .standard) (isSession : known.session = {}) :
    ∃ later, Knows later ∧ Follows i
      (.running (.file 1) (prepared i) .writing known, whenLocked config.render.toUTF8 log next)
      (.running (.file 1) (prepared i) .compiling later,
        whenWritten config.render.toUTF8 log next) := by
  obtain ⟨later, goes, sameConfig, session⟩ :=
    @Progress.next_writing (overlapping i).setting (overlapping i).files (.file 1) (prepared i)
      known _ _ _ _ rfl (write_whenLocked config.render.toUTF8 log next)
  refine ⟨later, ⟨sameConfig.trans isConfig, ?_⟩, goes, config, config, ⟨rfl, rfl, rfl⟩,
    ⟨rfl, rfl, rfl⟩, fun _ => rfl⟩
  rw [session, isSession]
  rfl

theorem follows_compiling (knows : Knows known) : ∃ later, Knows later ∧ Follows i
    (.running (.file 1) (prepared i) .compiling known, whenWritten config.render.toUTF8 log next)
    (.running (.file 1) (prepared i) .executing later,
      whenLogged config.render.toUTF8 log next) := by
  have compiled := compileWith_logging (prepared i).toolchain known.session.files
    (inside "/").classDir (whenWritten config.render.toUTF8 log next)
  rw [log_whenWritten] at compiled
  obtain ⟨later, goes, sameConfig, session⟩ :=
    @Progress.next_compiling (overlapping i).setting (overlapping i).files (.file 1) (prepared i)
      known _ _ _ _ knows.entry compiled
  exact ⟨later, ⟨sameConfig.trans knows.config, session ▸ knows.entry⟩, goes, config, config,
    ⟨rfl, rfl, rfl⟩, ⟨rfl, rfl, rfl⟩, fun _ => rfl⟩

theorem follows_executing (knows : Knows known) : ∃ later, Knows later ∧ Follows i
    (.running (.file 1) (prepared i) .executing known, whenLogged config.render.toUTF8 log next)
    (.running (.file 1) (prepared i) .ingesting later,
      whenLogged config.render.toUTF8 next (next + 1)) := by
  have joined : Classpath.join (places (sandbox (overlapping i).setting (prepared i))
      known.config) = .ok "/sandbox/classes" := by
    have only : places (sandbox (overlapping i).setting (prepared i)) known.config =
        [(inside "/").classDir] := by
      rw [knows.config]
      rfl
    have noColon : [(inside "/").classDir].any (fun place => ':' ∈ place.toList) = false := by
      decide
    have whole : ":".intercalate [(inside "/").classDir] = "/sandbox/classes" := by
      decide
    rw [only, Classpath.join, noColon, whole]
    rfl
  have executed := @executeWith_logging (prepared i).toolchain "A" _ _
    (flags (sandbox (overlapping i).setting (prepared i)) known.config) joined
    (whenUnlogged config.render.toUTF8 next)
  rw [log_whenUnlogged] at executed
  obtain ⟨later, goes, sameConfig, session⟩ :=
    @Progress.next_executing (overlapping i).setting (overlapping i).files (.file 1) (prepared i)
      known _ _ _ _ _ _ knows.entry joined (Disk.pathExists_iff.mpr ⟨_, _, find_log _ _ _⟩)
      (remove_whenLogged _ _ _) executed
  exact ⟨later, ⟨sameConfig.trans knows.config, session ▸ knows.entry⟩, goes, config, config,
    ⟨rfl, rfl, rfl⟩, ⟨rfl, rfl, rfl⟩, fun _ => rfl⟩

theorem follows_ingesting (knows : Knows known) : ∃ later, Follows i
    (.running (.file 1) (prepared i) .ingesting known, whenLogged config.render.toUTF8 log next)
    (.running (.file 1) (prepared i) .locating later,
      atRest (registered i).render.toUTF8 log next [.file 1]) := by
  have changes : register (inside "/") (prepared i).archive known.config =
      (registered i, true) := by
    rw [knows.config]
    rfl
  obtain ⟨later, goes⟩ :=
    @Progress.next_ingesting (overlapping i).setting (overlapping i).files (.file 1) (prepared i)
      known _ _ _ _ changes (save_whenLogged _ log next _) (size_atRest _ log next _)
  exact ⟨later, goes, config, registered i, ⟨rfl, rfl, rfl⟩, ⟨rfl, rfl, rfl⟩, nofun⟩

/-- A run that has loaded the standard configuration goes through to the end, and saves what it
registers over whatever is stored by then. -/
theorem follows_through : ∃ finish log' next', finish.preparation = prepared i ∧
    (∃ member, finish.result = .ok (.located member)) ∧
    Relation.ReflTransGen (Follows i)
      (.loaded (prepared i), atRest config.render.toUTF8 log next [])
      (.ended (.ok finish), atRest (registered i).render.toUTF8 log' next' []) := by
  obtain ⟨known, isConfig, isSession, ready⟩ := follows_ready i config log next
  obtain ⟨known, knows, writes⟩ := follows_writing i config log next isConfig isSession
  obtain ⟨known, knows, compiles⟩ := follows_compiling i config log next knows
  obtain ⟨known, knows, executes⟩ := follows_executing i config log next knows
  obtain ⟨known, ingests⟩ := follows_ingesting i config next (next + 1) knows
  obtain ⟨member, last, isLast, locates⟩ :=
    @Progress.next_locating (overlapping i).setting (overlapping i).files (.file 1) (prepared i)
      known (atRest (registered i).render.toUTF8 next (next + 1) [.file 1])
  refine ⟨⟨prepared i, .ok (.located member), last⟩, next, next + 1, rfl, ⟨member, rfl⟩, ?_⟩
  have ends : Relation.ReflTransGen (Follows i)
      (.loaded (prepared i), atRest config.render.toUTF8 log next []) _ :=
    ((((((Relation.ReflTransGen.single (follows_lock i config log next)).tail ready).tail
      writes).tail compiles).tail executes).tail ingests)
  refine (ends.tail ⟨locates, registered i, registered i, ⟨rfl, rfl, rfl⟩, ⟨rfl, rfl, rfl⟩,
    fun _ => rfl⟩).tail ⟨rfl, registered i, registered i, ⟨rfl, rfl, rfl⟩, ⟨rfl, rfl, rfl⟩,
    fun _ => rfl⟩

end Following

/-- Where one of two runs follows on, the history of both goes on. -/
theorem History.follows {disk : Disk} {pair : Pair} {passed : List Pair} {i : Bool}
    {later : Progress × Disk} (history : History overlapping disk pair passed)
    (follows : Relation.ReflTransGen (Follows i) (pair.progress i, pair.disk) later) :
    ∃ next passed', History overlapping disk next passed' ∧ next.disk = later.2 ∧
      next.progress i = later.1 ∧ ∀ j, j ≠ i → next.progress j = pair.progress j := by
  induction follows with
  | refl => exact ⟨pair, passed, history, rfl, rfl, fun _ _ => rfl⟩
  | @tail now later _ step ih =>
      obtain ⟨between, passed', history', sameDisk, sameProgress, sameOther⟩ := ih
      obtain ⟨goes, before, after, holdsBefore, holdsAfter, kept⟩ := step
      rw [← sameDisk] at holdsBefore
      rw [← sameDisk, ← sameProgress] at goes
      rw [← sameProgress] at kept
      have advanced : (overlapping i).advance (between.progress i) between.disk = later := by
        have current : (overlapping i).current = between.disk.current := holdsBefore.current.symm
        have sameCurrent : between.disk.current = later.2.current :=
          holdsBefore.current.trans holdsAfter.current.symm
        rw [Runner.advance, Runner.view, current, goes, sameCurrent]
      have atDisk : (between.go overlapping i).disk = later.2 := congrArg Prod.snd advanced
      rw [← atDisk] at holdsAfter
      refine ⟨_, _, history'.goesOn i ⟨fun isSave j => ?_, fun j => ?_, fun kind => ?_,
        fun _ => ?_⟩, atDisk, ?_, fun j other => ?_⟩
      · rw [holdsAfter.stored, holdsBefore.stored, kept isSave]
      · rw [holdsAfter.stored, holdsAfter.stored]
      · have same : (overlapping i).view (between.go overlapping i).disk =
            (between.go overlapping i).disk := by
          have current : (overlapping i).current = (between.go overlapping i).disk.current :=
            holdsAfter.current.symm
          rw [Runner.view, current]
        rw [same]
        change (between.go overlapping i).disk.entryAt? "/jitbox.json" ≠ _
        rw [holdsAfter.entryAt?]
        rintro ⟨⟩
      · exact holdsBefore.calm
      · rw [between.go_self, advanced]
      · rw [between.go_other other, sameOther j other]

def beforeBoth : Disk := atRest Config.standard.render.toUTF8 7 8 []

/-- Both load, then the first one goes through to its end, then the second one does. -/
theorem overlapping_ends : ∃ pair passed, ∃ finish : Bool → Finish,
    History overlapping beforeBoth pair passed ∧
      (∀ i, pair.progress i = .ended (.ok (finish i))) ∧
      (∀ i, (finish i).preparation = prepared i) ∧
      (∀ i, ∃ member, (finish i).result = .ok (.located member)) ∧
      Stores overlapping pair.disk (.ok (registered true)) := by
  have holds : Holds .standard beforeBoth := ⟨rfl, rfl, rfl⟩
  have loads (i : Bool) : Relation.ReflTransGen (Follows i) (.idle, beforeBoth)
      (.loaded (prepared i), beforeBoth) := by
    refine .single ⟨?_, .standard, .standard, holds, holds, fun _ => rfl⟩
    rw [Progress.next, beforeBoth, prepare_atRest]
  obtain ⟨firstEnd, log, next, firstPrepared, firstLocated, firstThrough⟩ :=
    follows_through false .standard 7 8
  obtain ⟨secondEnd, last, beyond, secondPrepared, secondLocated, secondThrough⟩ :=
    follows_through true (registered false) log next
  -- Whose turn it is leaves the other one where it was.
  obtain ⟨one, passed, history, disk, first, others⟩ :=
    (@History.begun overlapping beforeBoth).follows (loads false)
  have second : one.progress true = .idle := others true (by decide)
  have loadsToo : Relation.ReflTransGen (Follows true) (one.progress true, one.disk)
      (.loaded (prepared true), beforeBoth) := by
    rw [disk, second]
    exact loads true
  obtain ⟨two, passed, history, disk, second, others⟩ := history.follows loadsToo
  have goesThrough : Relation.ReflTransGen (Follows false) (two.progress false, two.disk)
      (.ended (.ok firstEnd), atRest (registered false).render.toUTF8 log next []) := by
    rw [disk, others false (by decide), first]
    exact firstThrough
  obtain ⟨three, passed, history, disk, first, others⟩ := history.follows goesThrough
  have goesThroughToo : Relation.ReflTransGen (Follows true) (three.progress true, three.disk)
      (.ended (.ok secondEnd), atRest (registered true).render.toUTF8 last beyond []) := by
    rw [disk, others true (by decide), second]
    exact secondThrough
  obtain ⟨pair, passed, history, disk, second, others⟩ := history.follows goesThroughToo
  have ends : Holds (registered true) pair.disk := disk ▸ ⟨rfl, rfl, rfl⟩
  refine ⟨pair, passed, fun i => if i then secondEnd else firstEnd, history, ?_, ?_, ?_,
    ends.stored⟩
  · exact Bool.forall_bool.mpr ⟨(others false (by decide)).trans first, second⟩
  · exact Bool.forall_bool.mpr ⟨firstPrepared, secondPrepared⟩
  · exact Bool.forall_bool.mpr ⟨firstLocated, secondLocated⟩

/-- The archive of the first one is not registered by the second one. -/
theorem not_isRegistered_registered :
    ¬ IsRegistered (inside "/") (prepared false).archive (registered true) := by
  intro complete
  have listed := complete.1 "/a/src.zip" (by decide)
  exact absurd listed (by decide)

theorem isShared_beforeBoth : IsShared "/" [] [] beforeBoth :=
  ⟨.of_entries (by decide), isAnchored_root nofun, nofun⟩

theorem spares_logging : loggingMachine.Spares "/" [] [] := by
  intro command disk child started shared time
  cases started
  have adds : disk.Extends (writeText (inside "/").logFile "" disk).2 :=
    .fill (inside "/").logFile false _ disk
  exact ⟨shared.extended adds, fill_locked _ _ _ disk, fun _ => adds.keyAt?⟩

theorem updates_survive_iff_overlapping : ∃ pair passed, ∃ finish : Bool → Finish,
    History overlapping beforeBoth pair passed ∧
      (∀ i, pair.progress i = .ended (.ok (finish i))) ∧
      (∀ i, ∃ member, (finish i).result = .ok (.located member)) ∧
      ∃ first, IsFirst first passed ∧ ¬ IsLate first passed := by
  obtain ⟨pair, passed, finish, history, ended, isPrepared, located, storesLast⟩ :=
    overlapping_ends
  have stored : Stores overlapping beforeBoth (.ok .standard) :=
    fun i => Holds.stored ⟨rfl, rfl, rfl⟩ i
  obtain ⟨-, first, config, last, -, storesToo, isFirst, survive⟩ :=
    @updates_survive_iff overlapping _ pair passed "/" [] [] beforeBoth finish (by decide)
      (fun _ => rfl) (fun _ => spares_logging) isShared_beforeBoth rfl stored history ended located
  refine ⟨pair, passed, finish, history, ended, located, first, isFirst, fun late => ?_⟩
  have isLast : last = registered true :=
    Except.ok.inj ((storesToo true).symm.trans (storesLast true))
  have complete := survive.mpr (.inl late) false
  rw [isPrepared, isLast] at complete
  exact not_isRegistered_registered complete

/-- What one of two runs has registered is not stored in the end. -/
theorem overlapping_loses_update : ∃ pair passed last, ∃ finish : Bool → Finish,
    History overlapping beforeBoth pair passed ∧
      (∀ i, pair.progress i = .ended (.ok (finish i))) ∧
      (∀ i, ∃ member, (finish i).result = .ok (.located member)) ∧
      Stores overlapping pair.disk (.ok last) ∧
      ¬ ∀ i, IsRegistered (inside "/") (finish i).preparation.archive last := by
  obtain ⟨pair, passed, finish, history, ended, isPrepared, located, storesLast⟩ :=
    overlapping_ends
  refine ⟨pair, passed, _, finish, history, ended, located, storesLast, fun complete => ?_⟩
  have complete := complete false
  rw [isPrepared] at complete
  exact not_isRegistered_registered complete

end Overlapping

end SnippetSandbox.Console
