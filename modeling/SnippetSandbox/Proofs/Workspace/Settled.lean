import SnippetSandbox.Proofs.Source.Snippet
import SnippetSandbox.Workspace.Ready

/-!
# Workspaces with a source directory

A source directory without links that is there is never sown again.  Making the workspace
ready, and removing the log, leave every file in it alone, and what leads to it stays.
-/

namespace SnippetSandbox

open FileSystem

namespace FileSystem

/-- What is at a place, unless it is a directory. -/
def Tree.leaf? (tree : Tree) (place : Place) : Option Entry :=
  (tree.lookup place).filter (· != .directory)

theorem Tree.leaf?_of_lookup {tree : Tree} {place : Place} {entry : Entry}
    (found : tree.lookup place = some entry) (notDirectory : entry ≠ .directory) :
    tree.leaf? place = some entry := by
  simp [leaf?, found, notDirectory]

theorem Tree.lookup_of_leaf? {tree : Tree} {place : Place} {entry : Entry}
    (found : tree.leaf? place = some entry) : tree.lookup place = some entry :=
  (Option.filter_eq_some_iff.mp found).1

theorem Disk.AddsDirectories.leaf? {path : String} {before after : Disk}
    (adds : before.AddsDirectories path after) (place : Place) :
    after.tree.leaf? place = before.tree.leaf? place := by
  rcases adds.places place with same | ⟨free, made, -⟩
  · rw [Tree.leaf?, same, Tree.leaf?]
  · simp [Tree.leaf?, free, made]

end FileSystem

namespace Workspace

/-- Where a workspace keeps its sources and its log, inside the sandbox directory. -/
def sourcePlace (around : Place) : Place :=
  "sources" :: around

def logPlace (around : Place) : Place :=
  "sandbox.log" :: around

/-- The workspace inside a root has its sandbox directory at a place, whether or not a log
is there, and a source directory in it that contains no link. -/
structure IsSettled (root : String) (around : Place) (disk : Disk) : Prop where
  usable : Path.IsUsable (inside root).sourceDir
  leads : ∀ other : Tree,
    (∀ place entry, entry.isPassable = true →
      (∀ target, entry = .link target → place ≠ logPlace around) →
      disk.tree.lookup place = some entry → other.lookup place = some entry) →
    other.Leads disk.current (inside root).sandboxDir around
  sources : disk.tree.lookup (sourcePlace around) = some .directory
  noLinks : ∀ place, sourcePlace around <:+ place →
    ∀ target, disk.tree.lookup place ≠ some (.link target)

/-- A settled workspace stays settled, and the leaves in its source directory stay. -/
def Spares (root : String) (around : Place) (before after : Disk) : Prop :=
  IsSettled root around before → IsSettled root around after ∧
    ∀ place, sourcePlace around <:+ place → after.tree.leaf? place = before.tree.leaf? place

namespace Spares

variable {root : String} {around : Place}

theorem refl (disk : Disk) : Spares root around disk disk :=
  fun settled => ⟨settled, fun _ _ => rfl⟩

theorem trans {first second third : Disk} (one : Spares root around first second)
    (two : Spares root around second third) : Spares root around first third := by
  intro settled
  obtain ⟨between, same⟩ := one settled
  obtain ⟨last, sameLater⟩ := two between
  exact ⟨last, fun place inside => (sameLater place inside).trans (same place inside)⟩

end Spares

namespace IsSettled

variable {root : String} {around : Place} {disk before after : Disk}

theorem sourceDir_eq (root : String) :
    (inside root).sourceDir = Path.joinAll (inside root).sandboxDir ["sources"] :=
  rfl

theorem isProper_sources : Path.IsProper "sources" :=
  ⟨by decide, by decide, by decide⟩

theorem isPlainName_sources : IsPlainName "sources" :=
  ⟨by decide, by decide, by decide⟩

theorem isProper_log : Path.IsProper "sandbox.log" :=
  ⟨by decide, by decide, by decide⟩

/-- A workspace is settled when its source directory is found without following a link and
contains none. -/
theorem of_noLinks (usable : Path.IsUsable (inside root).sourceDir)
    (start : disk.tree.lookup (disk.current.origin (inside root).sandboxDir) = some .directory)
    (way : Way disk.tree linkLimit (disk.current.origin (inside root).sandboxDir)
      (Path.names (inside root).sandboxDir) linkLimit around)
    (sources : disk.tree.lookup (sourcePlace around) = some .directory)
    (noLinks : ∀ place, sourcePlace around <:+ place →
      ∀ target, disk.tree.lookup place ≠ some (.link target)) :
    IsSettled root around disk where
  usable := usable
  leads other keeps := by
    have keepsDirectories (place : Place) (found : disk.tree.lookup place = some .directory) :
        other.lookup place = some .directory :=
      keeps place .directory rfl nofun found
    exact ⟨keepsDirectories _ start, linkLimit, way.kept_of_noLink rfl keepsDirectories⟩
  sources := sources
  noLinks := noLinks

theorem sandboxLeads (settled : IsSettled root around disk) :
    disk.tree.Leads disk.current (inside root).sandboxDir around :=
  settled.leads disk.tree fun _ _ _ _ found => found

theorem sourcesLead (settled : IsSettled root around disk) :
    disk.tree.Leads disk.current (inside root).sourceDir (sourcePlace around) := by
  have proper : ∀ name ∈ ["sources"], Path.IsProper name := by
    simpa using isProper_sources
  have plain : ∀ name ∈ ["sources"], IsPlainName name := by
    simpa using isPlainName_sources
  rw [sourceDir_eq]
  exact settled.sandboxLeads.below proper plain settled.sources

theorem pathExists_sourceDir (settled : IsSettled root around disk) :
    disk.pathExists (inside root).sourceDir = true := by
  have found := settled.sourcesLead.find settled.usable
  rw [Disk.pathExists, Disk.entryAt?, Disk.find, found]

theorem builds (settled : IsSettled root around before) (builds : before.Builds after) :
    IsSettled root around after where
  usable := settled.usable
  leads other keeps := by
    rw [builds.current]
    refine settled.leads other fun place entry passable noLog found => ?_
    exact keeps place entry passable noLog (builds.keeps place entry passable found)
  sources := builds.keeps _ _ rfl settled.sources
  noLinks place isInside target := (builds.places place).ne_link (settled.noLinks place isInside target)

end IsSettled

theorem spares_makeDirectories (root : String) (around : Place) (path : String) :
    Effect.Relates (Spares root around) (makeDirectories path) := by
  intro before settled
  have adds := Disk.AddsDirectories.makeDirectories path before
  exact ⟨settled.builds adds.builds, fun place _ => adds.leaf? place⟩

theorem spares_ensureReady (root : String) (around : Place) (seed : Seed) :
    Effect.Relates (Spares root around) ((inside root).ensureReady seed) := by
  intro before settled
  have asked : (Task.ask (·.pathExists (inside root).sourceDir) : Task Bool) before =
      (.ok true, before) := by
    rw [Task.ask, settled.pathExists_sourceDir]
  rw [ensureReady, Effect.bind_of_ok asked, if_neg (by simp)]
  have works : Effect.Relates (Spares root around) ((do
      (makeDirectories (inside root).classDir).reportedFor (inside root).classDir
      return !true && seed != .none) : Task Bool) :=
    .bind .trans (relates_reportedFor (spares_makeDirectories _ _ _) _) fun _ => .refl
  dsimp only
  exact works before settled

theorem not_logPlace_suffix {around place : Place} (inside : sourcePlace around <:+ place) :
    ¬ logPlace around <:+ place := by
  intro atLog
  have same := (List.suffix_of_suffix_length_le atLog inside (Nat.le_refl _)).eq_of_length rfl
  exact absurd (List.cons.inj same).1 (by decide)

/-- Removing the log spares the sources, whether it is a file or a link. -/
theorem spares_removeLog (root : String) (around : Place) :
    Effect.Relates (Spares root around) (removeFile (inside root).logFile) := by
  intro before settled
  rcases done : removeFile (inside root).logFile before with ⟨failure | ⟨⟩, after⟩
  · rcases attempt_cases done with ⟨_, -, rfl⟩ | ⟨_, ⟨⟩, -⟩
    exact ⟨settled.builds (.nextFault before), fun place _ => by
      rw [Tree.leaf?, before.nextFault_tree, Tree.leaf?]⟩
  · obtain ⟨place, entry, found, notDirectory, current, tree⟩ := removeFile_done done
    have there : before.tree.lookup place = some entry := Tree.find_ends found
    obtain rfl : place = logPlace around :=
      settled.sandboxLeads.find_name IsSettled.isProper_log (.inr rfl) found
    have cleared (other : Place) : after.tree.lookup other =
        if logPlace around <:+ other then none else before.tree.lookup other := by
      rw [tree]
      exact before.tree.lookup_clear_eq settled.sandboxLeads.lookup other
    refine ⟨⟨settled.usable, ?_, ?_, ?_⟩, ?_⟩
    · intro other keeps
      rw [current]
      refine settled.leads other fun passed shown passable noLog found => ?_
      refine keeps passed shown passable noLog ?_
      rw [cleared, if_neg, found]
      intro atLog
      by_cases same : logPlace around = passed
      · obtain rfl : shown = entry := Option.some.inj (found.symm.trans (same ▸ there))
        cases shown with
        | directory => exact notDirectory rfl
        | link target => exact noLog target rfl same.symm
        | file | device => cases passable
      · have isDirectory := Tree.lookup_of_suffix found atLog same
        exact notDirectory (Option.some.inj (there.symm.trans isDirectory))
    · rw [cleared, if_neg (not_logPlace_suffix (List.suffix_refl _))]
      exact settled.sources
    · intro passed isInside target
      rw [cleared, if_neg (not_logPlace_suffix isInside)]
      exact settled.noLinks passed isInside target
    · intro passed isInside
      rw [Tree.leaf?, cleared, if_neg (not_logPlace_suffix isInside), Tree.leaf?]

end Workspace

end SnippetSandbox
