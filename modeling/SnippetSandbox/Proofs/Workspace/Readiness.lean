import SnippetSandbox.Proofs.Workspace.Retry

/-!
# The directories of a ready workspace

The class directory is made, and a file in its place is refused.  The source
directory is made only where nothing is found in its place, so whatever is found
there stays, and a workspace can be ready with a file for a source directory.
-/

namespace SnippetSandbox

open FileSystem

namespace FileSystem

variable {path : String} {before after : Disk}

theorem isDirectory_of_makeDirectories (some : path ≠ "")
    (made : makeDirectories path before = (.ok (), after)) : after.isDirectory path = true := by
  obtain ⟨usable, place, leads⟩ := Disk.AddsDirectories.leads_of_makeDirectories some made
  have found : after.find path = .ok (.present place .directory) := leads.find usable
  rw [Disk.isDirectory, Disk.entryAt?, found]

theorem Disk.Extends.isDirectory (adds : before.Extends after)
    (there : before.isDirectory path = true) : after.isDirectory path = true := by
  obtain ⟨place, found⟩ := Disk.find_of_entryAt? (Disk.entryAt?_of_isDirectory there)
  obtain ⟨later, foundLater, becomes⟩ := adds.builds.find found
  rw [Disk.isDirectory, Disk.entryAt?, foundLater]
  cases becomes with
  | same => rfl
  | written writable =>
      obtain ⟨_, _, _, isFile⟩ := writable _ rfl
      cases isFile

end FileSystem

namespace Workspace

variable {root : String} {workspace : Workspace} {seed : Seed} {before after : Disk} {fresh : Bool}

/-- A source directory that is found to be there leaves only the class directory to be made. -/
theorem ensureReady_done_present (present : before.pathExists workspace.sourceDir = true)
    (done : workspace.ensureReady seed before = (.ok fresh, after)) :
    makeDirectories workspace.classDir before = (.ok (), after) := by
  obtain ⟨answer, _, asked, done⟩ := Effect.bind_ok done
  cases asked
  dsimp only at done
  rw [if_neg (by simp [present])] at done
  obtain ⟨⟨⟩, last, makes, done⟩ := Effect.bind_ok done
  cases done
  exact reportedFor_ok makes

/-- The class directory of a ready workspace is a directory.  Its source directory is one
unless something else was found in its place. -/
theorem ensureReady_directories
    (done : (inside root).ensureReady seed before = (.ok fresh, after)) :
    after.isDirectory (inside root).classDir = true ∧
      (after.isDirectory (inside root).sourceDir = true ↔
        (before.pathExists (inside root).sourceDir = true →
          before.isDirectory (inside root).sourceDir = true)) := by
  have someSource : (inside root).sourceDir ≠ "" := Path.join_ne_empty (by decide) _
  have someClass : (inside root).classDir ≠ "" := Path.join_ne_empty (by decide) _
  cases present : before.pathExists (inside root).sourceDir with
  | true =>
      have makes := ensureReady_done_present present done
      refine ⟨isDirectory_of_makeDirectories someClass makes, ?_⟩
      obtain ⟨place, entry, found⟩ := Disk.pathExists_iff.mp present
      have there : before.entryAt? (inside root).sourceDir = .ok entry := by
        rw [Disk.entryAt?, found]
      have grows : before.Grows after := (Disk.Grows.makeDirectoriesUp _ _).states makes
      rw [Disk.isDirectory, Disk.isDirectory, there, grows.entryAt? there]
      simp
  | false =>
      obtain ⟨made, sown, first, sows, makes⟩ := ensureReady_done present done
      refine ⟨isDirectory_of_makeDirectories someClass makes,
        iff_of_true ?_ fun isThere => absurd isThere Bool.false_ne_true⟩
      have sources := isDirectory_of_makeDirectories someSource first
      have adds := (extends_sow (inside root) seed).states sows
      exact (adds.trans ((Disk.Extends.makeDirectories _).states makes)).isDirectory sources

theorem ensureReady_directories_unlinkedSandbox : ∃ fresh after,
    (inside "/").ensureReady (.directory "/kept") unlinkedSandbox = (.ok fresh, after) ∧
      after.isDirectory (inside "/").classDir = true ∧
      after.isDirectory (inside "/").sourceDir = true := by
  obtain ⟨fresh, after, ready⟩ := ensureReady_unlinkedSandbox
  obtain ⟨classes, sources⟩ := ensureReady_directories ready
  have missing : unlinkedSandbox.pathExists (inside "/").sourceDir = false := by
    rw [Disk.pathExists, Disk.entryAt?, find_unlinkedSandbox]
  exact ⟨fresh, after, ready, classes, sources.mpr (by simp [missing])⟩

/-- A disk with a file in place of the source directory. -/
def blockedSandbox : Disk :=
  { tree := ⟨[("sandbox", .directory [("sources", .file 0 .empty false)])], 1⟩
    current := [] }

/-- A workspace is ready with a file for a source directory. -/
theorem ensureReady_blockedSandbox : ∃ after,
    (inside "/").ensureReady .none blockedSandbox = (.ok false, after) ∧
      after.isDirectory (inside "/").sourceDir = false := by
  have found : blockedSandbox.find (inside "/").sourceDir =
      .ok (.present ["sources", "sandbox"] (.file 0 .empty false)) :=
    Tree.find_absolute ["", "sandbox", "sources"] (by decide) (by cbv)
  have asked : (Task.ask (·.pathExists (inside "/").sourceDir) : Task Bool) blockedSandbox =
      (.ok true, blockedSandbox) := by
    rw [Task.ask, Disk.pathExists, Disk.entryAt?, found]
  obtain ⟨after, makes⟩ : ∃ after,
      makeDirectories (inside "/").classDir blockedSandbox = (.ok (), after) :=
    ⟨_, makeDirectoriesUp_of_absent _ rfl (by decide)
      (Tree.find_absolute ["", "sandbox", "classes"] (by decide) (by cbv))⟩
  have there : blockedSandbox.entryAt? (inside "/").sourceDir = .ok (.file 0 .empty false) := by
    rw [Disk.entryAt?, found]
  have grows := (Disk.Grows.makeDirectoriesUp _ _).states makes
  refine ⟨after, ?_, ?_⟩
  · rw [ensureReady, Effect.bind_of_ok asked]
    dsimp only
    rw [if_neg (by simp)]
    exact (Effect.bind_of_ok (reportedFor_of_ok makes)).trans rfl
  · rw [Disk.isDirectory, grows.entryAt? there]

end Workspace

end SnippetSandbox
