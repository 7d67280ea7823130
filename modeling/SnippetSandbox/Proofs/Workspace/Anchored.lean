import SnippetSandbox.Proofs.FileSystem.Change
import SnippetSandbox.Workspace.Layout

/-!
# Where the sandbox directory is

The path of the root may lead through links and upwards as far as it leads somewhere.  When
what is left of it are names, and neither they nor the sandbox directory itself are links,
the sandbox directory has one place, whether anything is there or not.  It keeps this place
as long as nothing changes outside of it except that missing directories around it are made.
-/

namespace SnippetSandbox

open FileSystem

namespace FileSystem

/-- Nothing has changed except below a place, and except that this place became a directory
when it was none and missing directories around it were made. -/
structure Disk.KeepsOutside (place : Place) (before after : Disk) : Prop where
  current : after.current = before.current
  outside : ∀ other, ¬ place <:+ other → after.tree.lookup other = before.tree.lookup other ∨
    before.tree.lookup other = none ∧ after.tree.lookup other = some .directory ∧ other <:+ place
  directory : before.tree.lookup place = some .directory →
    after.tree.lookup place = some .directory

namespace Disk.KeepsOutside

variable {place : Place} {before after : Disk}

theorem refl (place : Place) (disk : Disk) : disk.KeepsOutside place disk :=
  ⟨rfl, fun _ _ => .inl rfl, id⟩

theorem trans {first second third : Disk} (one : first.KeepsOutside place second)
    (two : second.KeepsOutside place third) : first.KeepsOutside place third where
  current := two.current.trans one.current
  outside other isOutside := by
    rcases two.outside other isOutside with same | ⟨free, made, around⟩
    · rw [same]
      exact one.outside other isOutside
    · rcases one.outside other isOutside with same | ⟨-, madeBefore, -⟩
      · exact .inr ⟨same.symm.trans free, made, around⟩
      · cases free.symm.trans madeBefore
  directory isDirectory := two.directory (one.directory isDirectory)

theorem keeps (kept : before.KeepsOutside place after) {other : Place} {entry : Entry}
    (isOutside : ¬ place <:+ other) (found : before.tree.lookup other = some entry) :
    after.tree.lookup other = some entry := by
  rcases kept.outside other isOutside with same | ⟨free, -⟩
  · exact same.trans found
  · cases free.symm.trans found

/-- What is neither in the place nor around it stays, with everything below it. -/
theorem same_below (kept : before.KeepsOutside place after) {source : Place}
    (notInside : ¬ place <:+ source) (notAround : ¬ source <:+ place) {inner : Place}
    (isInside : source <:+ inner) : after.tree.lookup inner = before.tree.lookup inner := by
  have isOutside : ¬ place <:+ inner := by
    intro below
    rcases List.suffix_or_suffix_of_suffix below isInside with inSource | around
    · exact notInside inSource
    · exact notAround around
  rcases kept.outside inner isOutside with same | ⟨-, -, around⟩
  · exact same
  · exact absurd (isInside.trans around) notAround

/-- What changes at or below a name in a directory changes below the directory. -/
theorem of_inside {name : String} (current : after.current = before.current)
    (same : ∀ other, ¬ name :: place <:+ other →
      after.tree.lookup other = before.tree.lookup other) : before.KeepsOutside place after where
  current := current
  outside other isOutside := by
    refine .inl (same other fun below => isOutside ?_)
    exact (List.suffix_cons name place).trans below
  directory isDirectory := by
    rw [same place fun below => absurd below.length_le (by simp), isDirectory]

end Disk.KeepsOutside

/-- Whatever is in the tree has names that an entry of a directory can have. -/
def Tree.IsWellNamed (tree : Tree) : Prop :=
  ∀ place entry, tree.lookup place = some entry → ∀ name ∈ place, Path.IsProper name

theorem Tree.IsWellNamed.of_entries {tree : Tree}
    (proper : ∀ item ∈ tree.entriesBelow [], ∀ name ∈ item.1, Path.IsProper name) :
    tree.IsWellNamed := by
  intro place entry found
  by_cases isRoot : place = []
  · rw [isRoot]
    exact nofun
  · exact proper _ (Tree.mem_entriesBelow isRoot found)

end FileSystem

namespace Workspace

/-- The names that lead down to the sandbox directory, where such names lead to the root. -/
def sandboxNames (back : List String) : List String :=
  back ++ ["sandbox"]

/-- Where the sandbox directory is when some names below a directory lead to the root. -/
def sandboxPlace (ground : Place) (back : List String) : Place :=
  (sandboxNames back).reverse ++ ground

theorem sandboxPlace_eq (ground : Place) (back : List String) :
    sandboxPlace ground back = "sandbox" :: (back.reverse ++ ground) := by
  simp [sandboxPlace, sandboxNames]

/-- The path of the root leads to a directory without passing anything in the sandbox
directory, and the names at its end lead on from there without a link. -/
structure IsAnchored (root : String) (ground : Place) (back : List String) (disk : Disk) :
    Prop where
  proper : ∀ name ∈ back, Path.IsProper name
  reaches : ∃ front, Path.names root = front ++ back ∧ ∀ other : Tree,
    (∀ place entry, entry.isPassable = true →
      (sandboxPlace ground back <:+ place → place = sandboxPlace ground back) →
        disk.tree.lookup place = some entry → other.lookup place = some entry) →
    other.Reaches (disk.current.origin root) front ground
  noLink : disk.tree.IsPlainBelow ground (sandboxNames back)

namespace IsAnchored

variable {root : String} {ground : Place} {back : List String} {disk before after : Disk}

theorem isProper_sandbox : Path.IsProper "sandbox" :=
  ⟨by decide, by decide, by decide⟩

/-- A root whose path goes down through directories, as far as they are there, and through no
link is one of this kind. -/
theorem of_noLinks (directory : disk.tree.lookup (disk.current.origin root) = some .directory)
    (proper : ∀ name ∈ Path.names root, Path.IsProper name)
    (noLink : disk.tree.IsPlainBelow (disk.current.origin root)
      (sandboxNames (Path.names root))) :
    IsAnchored root (disk.current.origin root) (Path.names root) disk where
  proper := proper
  reaches := by
    refine ⟨[], rfl, fun other keeps => ⟨?_, linkLimit, .arrived⟩⟩
    refine keeps _ _ rfl (fun below => absurd below.length_le ?_) directory
    rw [sandboxPlace_eq]
    simp only [List.length_cons, List.length_append]
    omega
  noLink := noLink

theorem properNames (anchored : IsAnchored root ground back disk) :
    ∀ name ∈ sandboxNames back, Path.IsProper name := by
  intro name isMember
  rcases List.mem_append.mp isMember with isMember | isMember
  · exact anchored.proper name isMember
  · exact List.mem_singleton.mp isMember ▸ isProper_sandbox

/-- The sandbox directory keeps its place as long as it becomes no link. -/
theorem kept (anchored : IsAnchored root ground back before)
    (keeps : before.KeepsOutside (sandboxPlace ground back) after)
    (noLink : ∀ target, after.tree.lookup (sandboxPlace ground back) ≠ some (.link target)) :
    IsAnchored root ground back after where
  proper := anchored.proper
  reaches := by
    obtain ⟨front, spelled, reaches⟩ := anchored.reaches
    refine ⟨front, spelled, fun other keepsOther => ?_⟩
    rw [keeps.current]
    refine reaches other fun place entry passable notBelow found => ?_
    refine keepsOther place entry passable notBelow ?_
    by_cases inside : sandboxPlace ground back <:+ place
    · obtain rfl := notBelow inside
      cases entry with
      | directory => exact keeps.directory found
      | link target =>
          have whole : sandboxNames back ≠ [] := by simp [sandboxNames]
          exact absurd found (anchored.noLink _ (List.prefix_refl _) whole target)
      | file | device => cases passable
    · exact keeps.keeps inside found
  noLink := by
    intro front isPrefix some target isLink
    by_cases inside : sandboxPlace ground back <:+ front.reverse ++ ground
    · obtain rfl : front = sandboxNames back := by
        refine isPrefix.eq_of_length_le ?_
        have length := inside.length_le
        simp only [sandboxPlace, List.length_append, List.length_reverse] at length
        omega
      exact noLink target isLink
    · rcases keeps.outside _ inside with same | ⟨-, made, -⟩
      · exact anchored.noLink front isPrefix some target (same.symm.trans isLink)
      · cases made.symm.trans isLink

theorem spelled (anchored : IsAnchored root ground back disk) {inner : List String}
    (proper : ∀ name ∈ inner, Path.IsProper name) :
    ∃ front, disk.tree.Reaches
        (disk.current.origin (Path.joinAll (inside root).sandboxDir inner)) front ground ∧
      Path.names (Path.joinAll (inside root).sandboxDir inner) =
        front ++ (sandboxNames back ++ inner) := by
  have whole : ∀ name ∈ "sandbox" :: inner, Path.IsProper name := by
    simpa using ⟨isProper_sandbox, proper⟩
  have behind : Path.joinAll (inside root).sandboxDir inner =
      Path.joinAll root ("sandbox" :: inner) := rfl
  obtain ⟨front, written, reaches⟩ := anchored.reaches
  refine ⟨front, ?_, ?_⟩
  · rw [behind, Place.origin_joinAll whole]
    exact reaches disk.tree fun _ _ _ _ found => found
  · rw [behind, Path.names_joinAll whole, written]
    simp [sandboxNames]

theorem spelled_sandbox (anchored : IsAnchored root ground back disk) :
    ∃ front, disk.tree.Reaches (disk.current.origin (inside root).sandboxDir) front ground ∧
      Path.names (inside root).sandboxDir = front ++ sandboxNames back := by
  obtain ⟨front, reaches, written⟩ := anchored.spelled (List.forall_mem_nil Path.IsProper)
  rw [List.append_nil] at written
  exact ⟨front, reaches, written⟩

/-- The path of the sandbox directory leads to its place, when it leads anywhere. -/
theorem place_eq (anchored : IsAnchored root ground back disk) {place : Place}
    (leads : disk.tree.Leads disk.current (inside root).sandboxDir place) :
    place = sandboxPlace ground back ∧ ∀ name ∈ sandboxNames back, IsPlainName name := by
  obtain ⟨front, reaches, written⟩ := anchored.spelled_sandbox
  rw [Tree.Leads, written] at leads
  exact reaches.down anchored.properNames anchored.noLink leads

/-- The path of the sandbox directory leads to it when it is there. -/
theorem leads (anchored : IsAnchored root ground back disk)
    (plain : ∀ name ∈ sandboxNames back, IsPlainName name)
    (directory : disk.tree.lookup (sandboxPlace ground back) = some .directory) :
    disk.tree.Leads disk.current (inside root).sandboxDir (sandboxPlace ground back) := by
  obtain ⟨front, reaches, written⟩ := anchored.spelled_sandbox
  rw [Tree.Leads, written]
  exact reaches.below plain directory

theorem leadsInside (anchored : IsAnchored root ground back disk) {name : String}
    (proper : Path.IsProper name)
    (plain : ∀ other ∈ sandboxNames back ++ [name], IsPlainName other)
    (there : disk.tree.lookup (name :: sandboxPlace ground back) = some .directory) :
    disk.tree.Leads disk.current (Path.join (inside root).sandboxDir name)
      (name :: sandboxPlace ground back) := by
  have properName : ∀ other ∈ [name], Path.IsProper other := by simpa using proper
  have plainName : ∀ other ∈ [name], IsPlainName other := by
    simpa using plain name (by simp)
  have sandboxLeads := anchored.leads
    (fun other isMember => plain other (List.mem_append_left _ isMember)) (Tree.lookup_around there)
  have behind : Path.join (inside root).sandboxDir name =
      Path.joinAll (inside root).sandboxDir [name] := rfl
  rw [behind]
  exact sandboxLeads.below properName plainName there

theorem properPlace (anchored : IsAnchored root ground back disk)
    (named : disk.tree.IsWellNamed) : ∀ name ∈ sandboxPlace ground back, Path.IsProper name := by
  obtain ⟨front, -, reaches⟩ := anchored.reaches
  have directory := (reaches disk.tree fun _ _ _ _ found => found).lookup
  intro name isMember
  rcases List.mem_append.mp isMember with isMember | isMember
  · exact anchored.properNames name (List.mem_reverse.mp isMember)
  · exact named ground .directory directory name isMember

/-- A tree stays well-named when what comes below the sandbox directory is. -/
theorem wellNamed (anchored : IsAnchored root ground back before)
    (named : before.tree.IsWellNamed)
    (keeps : before.KeepsOutside (sandboxPlace ground back) after)
    (below : ∀ (names : List String) (entry : Entry),
      after.tree.lookup (names.reverse ++ sandboxPlace ground back) = some entry →
        ∀ name ∈ names, Path.IsProper name) :
    after.tree.IsWellNamed := by
  intro place entry found name isMember
  by_cases inside : sandboxPlace ground back <:+ place
  · obtain ⟨front, rfl⟩ := inside
    rcases List.mem_append.mp isMember with isMember | isMember
    · refine below front.reverse entry ?_ name (List.mem_reverse.mpr isMember)
      rwa [List.reverse_reverse]
    · exact anchored.properPlace named name isMember
  · rcases keeps.outside place inside with same | ⟨-, -, around⟩
    · exact named place entry (same.symm.trans found) name isMember
    · exact anchored.properPlace named name (around.subset isMember)

end IsAnchored

end Workspace

end SnippetSandbox
