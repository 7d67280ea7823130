import SnippetSandbox.Proofs.Workspace.Sowing

/-!
# What a seed puts into a source directory

Each seed shows what is to be in a new source directory: nothing, the samples, or what is
seen behind the path of a directory.  Sowing a seed puts there what it shows.  A seed that
does not depend on the sandbox directory shows the same before and after a reset.
-/

namespace SnippetSandbox

open FileSystem

/-- What a seed has to show for a new source directory along some names. -/
def Seed.shows (seed : Seed) (disk : Disk) (names : List String) : Option Entry :=
  match seed with
  | .none => Option.none
  | .bundled =>
      (Sample.bundled.find? fun sample => [sample.fileName] = names).map fun sample =>
        .file 0 sample.text.toUTF8 false
  | .directory path => disk.seen? path names

theorem Seed.shows_ne_link (seed : Seed) (disk : Disk) (names : List String) (target : String) :
    seed.shows disk names ≠ some (.link target) := by
  cases seed with
  | none => simp [shows]
  | bundled => simp [shows]
  | directory path => exact disk.seen?_ne_link target

namespace Workspace

variable {workspace : Workspace} {place : Place} {shows : List String → Option Entry}
variable {start before after : Disk}

theorem shows_bundled {sample : Sample} (isMember : sample ∈ Sample.bundled) (disk : Disk) :
    Seed.bundled.shows disk [sample.fileName] = some (.file 0 sample.text.toUTF8 false) := by
  have different : Sample.addition.fileName ≠ Sample.inlining.fileName := by decide
  rcases (by simpa [Sample.bundled] using isMember) with rfl | rfl <;>
    simp [Seed.shows, Sample.bundled, different]

theorem isProper_sample {sample : Sample} (isMember : sample ∈ Sample.bundled) :
    Path.IsProper sample.fileName := by
  rcases (by simpa [Sample.bundled] using isMember) with rfl | rfl <;> decide

theorem writeSamples_done {path : String} {disk : Disk}
    (fallow : before.IsFallow path place (Seed.bundled.shows disk))
    (done : writeSamples path before = (.ok (), after)) :
    before.Sows place (Seed.bundled.shows disk) after ∧
      IsSown place (Seed.bundled.shows disk) [] after := by
  have loop : before.Sows place (Seed.bundled.shows disk) after ∧ ∀ sample ∈ Sample.bundled,
      ∃ entry, after.tree.lookup ([sample.fileName].reverse ++ place) = some entry := by
    have lasts (sample : Sample) (first second : Disk)
        (sows : first.Sows place (Seed.bundled.shows disk) second)
        (there : ∃ entry, first.tree.lookup ([sample.fileName].reverse ++ place) = some entry) :
        ∃ entry, second.tree.lookup ([sample.fileName].reverse ++ place) = some entry :=
      sows.stays there
    refine Effect.forM_ok (Disk.Sows.refl place _) Disk.Sows.trans lasts ?_ done
    intro sample isMember current next sown written
    exact sown.fill fallow (by simp) (by simpa using isProper_sample isMember)
      (shows_bundled isMember disk) (reportedFor_ok written)
  refine ⟨loop.1, fun names _ isShown => ?_⟩
  rw [List.nil_append] at isShown ⊢
  obtain ⟨entry, found⟩ := Option.ne_none_iff_exists'.mp isShown
  obtain ⟨sample, isFirst, -⟩ := Option.map_eq_some_iff.mp found
  obtain rfl : [sample.fileName] = names := by simpa using List.find?_some isFirst
  exact loop.2 sample (List.mem_of_find?_eq_some isFirst)

/-- What has been sown into an empty source directory is what the seed shows. -/
theorem sow_done {seed : Seed} {disk : Disk}
    (fallow : before.IsFallow workspace.sourceDir place (seed.shows disk))
    (steady : ∀ later, before.Sows place (seed.shows disk) later →
      ∀ names, (∀ name ∈ names, Path.IsProper name) →
        seed.shows later names = seed.shows disk names)
    (named : ∀ later, before.Sows place (seed.shows disk) later → later.tree.IsWellNamed)
    (done : workspace.sow seed before = (.ok (), after)) :
    before.Sows place (seed.shows disk) after ∧ IsSown place (seed.shows disk) [] after := by
  cases seed with
  | none =>
      cases done
      refine ⟨.refl _ _ _, fun names _ isShown => ?_⟩
      exact absurd rfl isShown
  | bundled => exact writeSamples_done fallow done
  | directory path =>
      have copied : copyTree pathLimit (Path.joinAll path [])
          (Path.joinAll workspace.sourceDir []) before = (.ok (), after) := done
      exact copyTree_done fallow steady named (.refl _ _ _) nofun fallow.leads.lookup copied

end Workspace

/-- What the seed shows does not depend on the sandbox directory, nor on the directories
around it that are missing. -/
def Seed.IsApart (seed : Seed) (place : Place) (disk : Disk) : Prop :=
  ∀ other, disk.KeepsOutside place other → ∀ names, (∀ name ∈ names, Path.IsProper name) →
    seed.shows other names = seed.shows disk names

/-- What is at some names below the sandbox directory after a reset with a seed. -/
def Seed.layout (seed : Seed) (disk : Disk) (names : List String) : Option Entry :=
  match names with
  | [] => some .directory
  | name :: inner =>
      if name = "sources" then
        if inner = [] then some .directory
        else if ∀ other ∈ inner, Path.IsProper other then seed.shows disk inner
        else Option.none
      else if name = "classes" ∧ inner = [] then some .directory
      else Option.none

/-- A directory without links is a seed of its own when it is neither in the sandbox directory
nor around it, and its path leads to it whatever becomes of the sandbox directory. -/
theorem Seed.isApart_of_leads {path : String} {disk : Disk} {source place : Place}
    (leads : ∀ other, disk.KeepsOutside place other → other.tree.Leads other.current path source)
    (same : ∀ other, disk.KeepsOutside place other → ∀ inner, source <:+ inner →
      other.tree.lookup inner = disk.tree.lookup inner)
    (noLinks : ∀ inner, source <:+ inner → ∀ target, disk.tree.lookup inner ≠ some (.link target)) :
    (Seed.directory path).IsApart place disk := by
  intro other keeps names proper
  have leadsHere := leads disk (.refl place disk)
  have leadsThere := leads other keeps
  change other.seen? path names = disk.seen? path names
  have found : Path.IsUsable (Path.joinAll path names) →
      other.find (Path.joinAll path names) = disk.find (Path.joinAll path names) := by
    intro usable
    cases names with
    | nil => exact (leadsThere.find usable).trans (leadsHere.find usable).symm
    | cons name names =>
        obtain ⟨links, walks⟩ := leadsHere.find_joinAll proper usable
        obtain ⟨left, walksThere⟩ := leadsThere.find_joinAll proper usable
        rw [Disk.find, Disk.find, walks, walksThere]
        refine walk_same proper (fun front _ _ target => ?_) (same other keeps)
        exact noLinks _ (List.suffix_append _ _) target
  by_cases usable : Path.IsUsable (Path.joinAll path names)
  · rw [Disk.seen?, Disk.seen?, Disk.entryAt?, Disk.entryAt?, found usable]
  · have nothing (any : Disk) : any.seen? path names = Option.none := by
      rw [Option.eq_none_iff_forall_ne_some]
      intro seen isSeen
      obtain ⟨_, _, found, -⟩ := Disk.find_of_seen? isSeen
      exact usable (Tree.find_done found).1
    rw [nothing, nothing]

/-- This holds when the path to the directory does not pass through the sandbox directory. -/
theorem Seed.isApart_of_noLinks {path : String} {disk : Disk} {source place : Place}
    (leads : ∀ other : Tree, (∀ passed entry, entry.isPassable = true → ¬ place <:+ passed →
      disk.tree.lookup passed = some entry → other.lookup passed = some entry) →
        other.Leads disk.current path source)
    (notInside : ¬ place <:+ source) (notAround : ¬ source <:+ place)
    (noLinks : ∀ inner, source <:+ inner → ∀ target, disk.tree.lookup inner ≠ some (.link target)) :
    (Seed.directory path).IsApart place disk := by
  refine isApart_of_leads (fun other keeps => ?_)
    (fun other keeps inner isInside => keeps.same_below notInside notAround isInside) noLinks
  rw [keeps.current]
  exact leads other.tree fun _ _ _ isOutside found => keeps.keeps isOutside found

theorem Seed.IsApart.kept {seed : Seed} {place : Place} {before after : Disk}
    (apart : seed.IsApart place before) (keeps : before.KeepsOutside place after) :
    seed.IsApart place after := by
  intro other keepsLater names proper
  rw [apart other (keeps.trans keepsLater) names proper, apart after keeps names proper]

/-- A seed that does not depend on the sandbox directory has the same for every reset. -/
theorem Seed.IsApart.layout_eq {seed : Seed} {place : Place} {before after : Disk}
    (apart : seed.IsApart place before) (keeps : before.KeepsOutside place after) :
    seed.layout after = seed.layout before := by
  funext names
  cases names with
  | nil => rfl
  | cons name inner =>
      rw [Seed.layout, Seed.layout]
      by_cases proper : ∀ other ∈ inner, Path.IsProper other
      · rw [apart after keeps inner proper]
      · simp only [if_neg proper]

end SnippetSandbox
