import SnippetSandbox.Proofs.Config.Stored
import SnippetSandbox.Proofs.Console.Checks
import SnippetSandbox.Proofs.Console.Exclusion
import SnippetSandbox.Proofs.Toolchain
import SnippetSandbox.Proofs.Workspace.Busy

/-!
# What a refused run leaves behind

A run that a check stops has only looked at the disk.  One that finds the workspace busy has
made the way to the lock file at most.  So no more is left of a refused run than directories on
the path of its root, and nothing at all where the root is a directory.
-/

namespace SnippetSandbox

open FileSystem

namespace Console

open Workspace

/-- Of a refused run at most directories on the path of its root are left, and nothing at all
where the root is a directory. -/
structure LeavesWay (root : String) (before after : Disk) : Prop where
  locked : after.locked = before.locked
  adds : before.AddsDirectories root after
  same : before.isDirectory root = true →
    ∀ place, after.tree.lookup place = before.tree.lookup place

variable {setting : Setting} {root : String} {files : List String} {quiet : Bool}
variable {before after prepared : Disk} {refusal : Refusal}

theorem LeavesWay.of_adds (locked : after.locked = before.locked)
    (adds : before.AddsDirectories root after) : LeavesWay root before after where
  locked := locked
  adds := adds
  same isDirectory place := by
    obtain ⟨there, found⟩ :=
      Disk.find_of_entryAt? (Disk.entryAt?_of_isDirectory isDirectory)
    exact adds.same_of_reaches (List.prefix_refl _) (Tree.leads_of_find found) place

/-- What the first check finds that fails is what a run is refused for. -/
theorem runFiles_of_problem (quiet : Bool)
    (found : firstProblem? (setting.checks files) before = some refusal) :
    ∃ after, runFiles setting files quiet before = (.error refusal, after) ∧
      before.Spends after := by
  have answers := problem_prepare setting files before
  have spends := spends_prepare setting files before
  rcases prepares : prepare setting files before with ⟨first | preparation, prepared⟩
  all_goals
    rw [prepares] at answers spends
    cases answers.trans found
  exact ⟨prepared, Effect.bind_of_error prepares, spends⟩

theorem runFiles_of_passed (quiet : Bool)
    (passed : firstProblem? (setting.checks files) before = none) :
    ∃ preparation prepared, before.Spends prepared ∧
      runFiles setting files quiet before =
        locked setting.workspace (runPrepared setting quiet preparation) prepared := by
  have answers := problem_prepare setting files before
  have spends := spends_prepare setting files before
  rcases prepares : prepare setting files before with ⟨first | preparation, prepared⟩
  all_goals rw [prepares] at answers spends
  · cases answers.trans passed
  · exact ⟨preparation, prepared, spends, Effect.bind_of_ok prepares⟩

theorem locked_refused {workspace : Workspace} {work : Disk → Transcript × Disk}
    (refused : locked workspace work before = (.error refusal, after)) :
    ∃ failure, refusal = .failed failure ∧ workspace.lock before = (.error failure, after) := by
  rcases locks : workspace.lock before with ⟨failure | key, left⟩
  · cases (locked_of_error locks).symm.trans refused
    exact ⟨failure, rfl, rfl⟩
  · cases (locked_of_ok locks).symm.trans refused

theorem ofFile_ne_busy {file lockFile : String} {answer : Except Cause String} :
    Config.ofFile file answer ≠ .error (.workspaceBusy lockFile) := by
  intro failed
  unfold Config.ofFile at failed
  split at failed
  next => split at failed <;> cases failed
  next => cases failed
  next => cases failed

theorem firstProblem_ne_busy {lockFile : String}
    (found : firstProblem? (setting.checks files) before = some refusal) :
    refusal ≠ .failed (.workspaceBusy lockFile) := by
  obtain ⟨check, isCheck, disk, fails⟩ := exists_of_firstProblem found
  rintro rfl
  simp only [Setting.checks, List.mem_append, List.mem_map, List.mem_cons, List.not_mem_nil,
    or_false] at isCheck
  rcases isCheck with ⟨file, -, rfl⟩ | rfl | rfl
  · rw [checkSource] at fails
    cases read : (readText file disk).1 <;> rw [read] at fails <;> cases fails
  · rw [Setting.checkConfig] at fails
    cases loaded : (Config.load setting.configFile disk).1 with
    | ok config =>
        rw [loaded] at fails
        cases fails
    | error failure =>
        rw [loaded] at fails
        cases fails
        exact ofFile_ne_busy loaded
  · rw [Setting.checkTools] at fails
    cases detected : Toolchain.detect disk setting.tools with
    | ok toolchain =>
        rw [detected] at fails
        cases fails
    | error failure =>
        rw [detected] at fails
        obtain ⟨tool, rfl⟩ := Toolchain.detect_error detected
        cases fails

/-- A run that no check stops leaves the way to the lock file behind when somebody has the
lock. -/
theorem runFiles_of_held {near : Disk} {place : Place} {entry : Entry} {key : FileKey}
    (isInside : setting.workspace = inside root)
    (passed : firstProblem? (setting.checks files) before = none) (calm : before.faults = [])
    (approached : (inside root).approach before = (.ok (), near))
    (found : near.tree.find near.current .newFile (inside root).lockFile =
      .ok (.present place entry)) (isKey : entry.key? = some key) (isLocked : key ∈ before.locked) :
    ∃ after, runFiles setting files quiet before =
        (.error (.failed (.workspaceBusy (inside root).lockFile)), after) ∧
      ∀ other, after.tree.lookup other = near.tree.lookup other := by
  obtain ⟨preparation, prepared, spends, goesOn⟩ := runFiles_of_passed quiet passed
  cases spends.eq_of_calm calm
  obtain ⟨after, locks, same⟩ := lock_of_held calm approached found isKey isLocked
  refine ⟨after, ?_, same⟩
  rw [goesOn, isInside, locked_of_error locks]

/-- A run that finds the workspace busy has passed all checks, and somebody has the lock. -/
theorem runFiles_busy (isInside : setting.workspace = inside root)
    (known : ∀ identity, .file identity ∈ before.locked → identity < before.tree.nextIdentity)
    (noBlock : ∀ fault, some fault ∈ before.faults → fault.cause ≠ .wouldBlock)
    (busy : runFiles setting files quiet before =
      (.error (.failed (.workspaceBusy (inside root).lockFile)), after)) :
    firstProblem? (setting.checks files) before = none ∧
      (∃ prepared, before.Spends prepared ∧ (inside root).IsHeld prepared) ∧
      LeavesWay root before after := by
  cases checked : firstProblem? (setting.checks files) before with
  | some refusal =>
      obtain ⟨_, refused, -⟩ := runFiles_of_problem quiet checked
      cases refused.symm.trans busy
      exact absurd rfl (firstProblem_ne_busy checked)
  | none =>
      obtain ⟨preparation, prepared, spends, goesOn⟩ := runFiles_of_passed quiet checked
      rw [goesOn, isInside] at busy
      obtain ⟨failure, same, locks⟩ := locked_refused busy
      cases same
      obtain ⟨left, isSuffix, rfl⟩ := spends
      obtain ⟨held, adds, locked⟩ := lock_busy locks known fun fault isMember =>
        noBlock fault (isSuffix.mem isMember)
      exact ⟨rfl, ⟨_, ⟨left, isSuffix, rfl⟩, held⟩, .of_adds locked ⟨adds.current, adds.places⟩⟩

/-- What the first check finds that fails is what a run is refused for, and then it has only
looked at the disk.  When no check fails and no fault strikes, the workspace is busy just when
somebody has the lock, and at most directories on the path of the root are left of the run. -/
theorem runFiles_refused (isInside : setting.workspace = inside root)
    (known : ∀ identity, .file identity ∈ before.locked → identity < before.tree.nextIdentity)
    (noBlock : ∀ fault, some fault ∈ before.faults → fault.cause ≠ .wouldBlock) :
    let busy : Refusal := .failed (.workspaceBusy (inside root).lockFile)
    (∀ refusal, firstProblem? (setting.checks files) before = some refusal →
        ∃ after, runFiles setting files quiet before = (.error refusal, after) ∧
          before.Spends after) ∧
      (firstProblem? (setting.checks files) before = none → before.faults = [] →
        ((runFiles setting files quiet before).1 = .error busy ↔ (inside root).IsHeld before)) ∧
      ∀ after, runFiles setting files quiet before = (.error busy, after) →
        firstProblem? (setting.checks files) before = none ∧ LeavesWay root before after := by
  refine ⟨fun refusal => runFiles_of_problem quiet, fun passed calm => ?_, fun after busy => ?_⟩
  · constructor
    · intro busy
      obtain ⟨-, ⟨prepared, spends, held⟩, -⟩ :=
        runFiles_busy isInside known noBlock (Prod.ext busy rfl)
      exact spends.eq_of_calm calm ▸ held
    · rintro ⟨near, place, entry, key, approached, found, isKey, isLocked⟩
      obtain ⟨after, busy, -⟩ :=
        runFiles_of_held isInside passed calm approached found isKey isLocked
      rw [busy]
  · obtain ⟨passed, -, leaves⟩ := runFiles_busy isInside known noBlock busy
    exact ⟨passed, leaves⟩

/-- A disk with a source and both tools, and with a lock file in the root directory that
somebody has locked. -/
def heldRoot : Disk where
  tree := ⟨[("A.java", .file 1 .empty false),
    ("bin", .directory [("java", .file 2 .empty true), ("javac", .file 3 .empty true)]),
    ("sandbox.lock", .file 0 .empty false)], 4⟩
  current := []
  locked := [.file 0]

theorem passes_heldRoot {setting : Setting} (configFile : setting.configFile = "/jitbox.json")
    (tools : setting.tools = idleSetting.tools) :
    firstProblem? (setting.checks ["/A.java"]) heldRoot = none := by
  have source : checkSource "/A.java" heldRoot = none := by
    have there : heldRoot.entryAt? "/A.java" = .ok (.file 1 "".toUTF8 false) := by
      rw [Disk.entryAt?, Disk.find, Tree.find_absolute ["", "A.java"] (by decide) (by cbv)]
      rfl
    rw [checkSource, readText_file there rfl]
    rfl
  have config : setting.checkConfig heldRoot = none := by
    have absent : heldRoot.entryAt? "/jitbox.json" = .error .notFound := by
      rw [Disk.entryAt?, Disk.find, Tree.find_absolute ["", "jitbox.json"] (by decide) (by cbv)]
    rw [Setting.checkConfig, configFile, Config.load_answer, readText_answer, readFile_answer,
      absent]
    rfl
  have both : setting.checkTools heldRoot = none := by
    have finds {tool : String} (isTool : tool = "javac" ∨ tool = "java") :
        Toolchain.find heldRoot idleSetting.tools tool = .ok (Path.join "/bin" tool) := by
      have runs : heldRoot.isExecutable (Path.join "/bin" tool) = true := by
        rcases isTool with rfl | rfl
        all_goals rw [Disk.isExecutable, Disk.entryAt?, Disk.find]
        · rw [Tree.find_absolute ["", "bin", "javac"] (by decide) (by cbv)]
        · rw [Tree.find_absolute ["", "bin", "java"] (by decide) (by cbv)]
      have onPath : Toolchain.search? heldRoot none heldRoot.current.path tool "/bin" =
          some (Path.join "/bin" tool) :=
        Toolchain.search_of_noColon (by decide) (by decide)
          (by rcases isTool with rfl | rfl <;> decide) runs
      rw [Toolchain.find]
      dsimp only [idleSetting, Option.bind_some, Option.bind_none]
      rw [onPath]
      rfl
    rw [Setting.checkTools, tools, Toolchain.detect, Toolchain.compilerName,
      Toolchain.runtimeName, finds (.inl rfl), finds (.inr rfl)]
    rfl
  have calm : heldRoot.nextFault.2 = heldRoot := rfl
  simp only [Setting.checks, List.map_cons, List.map_nil, List.cons_append, List.nil_append,
    firstProblem?, calm, source, config, both, Option.or_none]

theorem find_lock_heldRoot : heldRoot.tree.find heldRoot.current .newFile (inside "/").lockFile =
    .ok (.present ["sandbox.lock"] (.file 0 .empty false)) :=
  Tree.find_absolute ["", "sandbox.lock"] (by decide) (by cbv)

/-- Where the root is a directory, nothing at all is left. -/
theorem runFiles_refused_heldRoot : ∃ after,
    runFiles idleSetting ["/A.java"] false heldRoot =
        (.error (.failed (.workspaceBusy "/sandbox.lock")), after) ∧
      after.locked = heldRoot.locked ∧
      ∀ place, after.tree.lookup place = heldRoot.tree.lookup place := by
  have known (identity : Nat) (isLocked : .file identity ∈ heldRoot.locked) :
      identity < heldRoot.tree.nextIdentity := by
    cases List.mem_singleton.mp isLocked
    decide
  obtain ⟨-, busy, leaves⟩ :=
    @runFiles_refused idleSetting "/" ["/A.java"] false heldRoot rfl known nofun
  have held : (inside "/").IsHeld heldRoot := by
    have parent : Path.parent? (inside "/").lockFile = some "/" := by decide
    have approached : (inside "/").approach heldRoot = (.ok (), heldRoot) := by
      rw [approach, parent]
      exact reportedFor_of_ok (makeDirectories_root rfl)
    exact ⟨heldRoot, _, _, .file 0, approached, find_lock_heldRoot, rfl, List.mem_singleton.mpr rfl⟩
  have isBusy := (busy (passes_heldRoot rfl rfl) rfl).mpr held
  obtain ⟨-, leavesWay⟩ := leaves _ (Prod.ext isBusy rfl)
  have isDirectory : heldRoot.isDirectory "/" = true := by
    rw [Disk.isDirectory, Disk.entryAt?, Disk.find,
      Tree.find_absolute ["", ""] (by decide) (by cbv)]
  exact ⟨_, Prod.ext isBusy rfl, leavesWay.locked, leavesWay.same isDirectory⟩

/-- The same disk with the directory that the path of another root leads back from. -/
def wayMade : Disk :=
  { heldRoot with tree := heldRoot.tree.put ["missing"] .directory }

theorem approach_heldRoot : (inside "/missing/..").approach heldRoot = (.ok (), wayMade) := by
  have parent : Path.parent? (inside "/missing/..").lockFile = some "/missing/.." := by decide
  have levels : (Path.segments "/missing/..").length = 3 := by decide
  have missing : makeDirectoriesUp 2 "/missing" heldRoot = (.ok (), wayMade) :=
    makeDirectoriesUp_of_absent 2 rfl (by decide)
      (Tree.find_absolute ["", "missing"] (by decide) (by cbv))
  have root : makeDirectories "/missing/.." heldRoot = (.ok (), wayMade) := by
    rw [makeDirectories, levels]
    exact makeDirectoriesUp_of_missing rfl rfl (by decide)
      (Tree.find_absolute ["", "missing", ".."] (by decide) (by cbv)) (by decide) missing
      (Tree.find_absolute ["", "missing", ".."] (by decide) (by cbv))
      (Tree.find_absolute ["", "missing", ".."] (by decide) (by cbv))
  rw [approach, parent]
  exact reportedFor_of_ok root

/-- A run whose root is reached through a missing directory leaves this directory behind when
somebody has the lock. -/
theorem runFiles_leaves_missing : ∃ after,
    runFiles { idleSetting with workspace := inside "/missing/.." } ["/A.java"] false heldRoot =
        (.error (.failed (.workspaceBusy "/missing/../sandbox.lock")), after) ∧
      heldRoot.tree.lookup ["missing"] = none ∧
      after.tree.lookup ["missing"] = some .directory := by
  have found : wayMade.tree.find wayMade.current .newFile (inside "/missing/..").lockFile =
      .ok (.present ["sandbox.lock"] (.file 0 .empty false)) :=
    Tree.find_absolute ["", "missing", "..", "sandbox.lock"] (by decide) (by cbv)
  let setting : Setting := { idleSetting with workspace := inside "/missing/.." }
  have passed : firstProblem? (setting.checks ["/A.java"]) heldRoot = none :=
    passes_heldRoot rfl rfl
  obtain ⟨after, busy, same⟩ := runFiles_of_held rfl passed rfl approach_heldRoot found rfl
    (List.mem_singleton.mpr rfl)
  refine ⟨after, busy, rfl, ?_⟩
  rw [same]
  rfl

end Console

end SnippetSandbox
