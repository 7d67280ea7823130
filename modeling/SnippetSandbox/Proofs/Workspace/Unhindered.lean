import SnippetSandbox.Proofs.FileSystem.Progress
import SnippetSandbox.Proofs.Workspace.Overlap

/-!
# Resets that nothing hinders

Where no fault strikes and no name or path is too long, a reset is hindered only by what stands
on the way to the sandbox directory, and by a seed that overlaps it.  Otherwise it succeeds, and
it has copied no more entries than the seed had when the reset began.
-/

namespace SnippetSandbox

open FileSystem

namespace FileSystem

/-- The names that lead down from a place to the entries below it. -/
def Tree.contents (tree : Tree) (place : Place) : Set (List String) :=
  {names | names ≠ [] ∧ tree.lookup (names.reverse ++ place) ≠ none}

theorem Tree.finite_contents (tree : Tree) (place : Place) : (tree.contents place).Finite := by
  have listed : (Set.preimage (fun names : List String => names.reverse ++ place)
      {other | other ∈ (tree.entriesBelow []).map Prod.fst}).Finite := by
    refine Set.Finite.preimage (fun first _ second _ same => ?_) (List.finite_toSet _)
    exact List.reverse_inj.mp (List.append_cancel_right same)
  refine listed.subset fun names isInside => ?_
  obtain ⟨entry, found⟩ := Option.ne_none_iff_exists'.mp isInside.2
  have notRoot : names.reverse ++ place ≠ [] := by simp [isInside.1]
  exact List.mem_map.mpr ⟨_, mem_entriesBelow notRoot found, rfl⟩

end FileSystem

namespace Workspace

variable {root path : String} {ground base : Place} {back inner : List String} {seed : Seed}
variable {before cleared made after : Disk}

section Emptying

theorem removeInside_of_anchored (noFaults : before.faults = [])
    (anchored : IsAnchored root ground back before)
    (plain : ∀ name ∈ sandboxNames back, IsPlainName name)
    (directory : before.tree.lookup (sandboxPlace ground back) = some .directory) {name : String}
    (proper : Path.IsProper name) (plainName : IsPlainName name)
    (usable : Path.IsUsable (Path.join (inside root).sandboxDir name)) {entry : Entry}
    (there : before.tree.lookup (name :: sandboxPlace ground back) = some entry) :
    ∃ after, (do
      let path := Path.join (inside root).sandboxDir name
      if ← Task.ask (·.isDirectory path) then (removeTree path).reportedFor path
      else (removeFile path).reportedFor path : Task Unit) before = (.ok (), after) ∧
        after.faults = [] := by
  have leads := anchored.leads plain directory
  have asked : (Task.ask (·.isDirectory (Path.join (inside root).sandboxDir name)) : Task Bool)
      before = (.ok (before.isDirectory (Path.join (inside root).sandboxDir name)), before) := rfl
  have isFound (noLink : ∀ target, entry ≠ .link target) :
      before.entryAt? (Path.join (inside root).sandboxDir name) = .ok entry := by
    obtain ⟨left, walks⟩ := leads.find_last proper usable
    rw [Disk.entryAt?, Disk.find, (walks .content).trans (walk_entry plainName there (.inl noLink))]
  simp only
  rw [Effect.bind_of_ok asked]
  cases isDirectory : before.isDirectory (Path.join (inside root).sandboxDir name) with
  | true =>
      have isTree : entry = .directory ∨ ∃ target, entry = .link target := by
        by_cases isLink : ∃ target, entry = .link target
        · exact .inr isLink
        · have found := isFound fun target same => isLink ⟨target, same⟩
          exact .inl (Except.ok.inj (found.symm.trans (Disk.entryAt?_of_isDirectory isDirectory)))
      obtain ⟨after, removed, quiet⟩ :=
        removeTree_of_leads noFaults leads proper plainName usable there isTree
      exact ⟨after, reportedFor_of_ok removed, quiet⟩
  | false =>
      have notDirectory : entry ≠ .directory := by
        rintro rfl
        rw [Disk.isDirectory, isFound (by simp)] at isDirectory
        cases isDirectory
      obtain ⟨after, removed, quiet⟩ :=
        removeFile_of_leads noFaults leads proper plainName usable there notDirectory
      exact ⟨after, reportedFor_of_ok removed, quiet⟩

/-- Some names are left to be removed from a directory, each of them once, and what has been
removed already is all that has changed. -/
structure LeavesToRemove (before : Disk) (place : Place) (remaining : List String) (disk : Disk) :
    Prop where
  calm : disk.faults = []
  empties : before.Empties place disk
  distinct : remaining.Nodup
  present : ∀ name ∈ remaining, disk.tree.lookup (name :: place) ≠ none

/-- A sandbox directory can be emptied in which all names are different and short enough. -/
theorem emptyDirectory_of_anchored (noFaults : before.faults = []) (named : before.tree.IsWellNamed)
    (distinct : (before.tree.names (sandboxPlace ground back)).Nodup)
    (anchored : IsAnchored root ground back before)
    (plain : ∀ name ∈ sandboxNames back, IsPlainName name)
    (usable : Path.IsUsable (inside root).sandboxDir)
    (directory : before.tree.lookup (sandboxPlace ground back) = some .directory)
    (fits : ∀ name, before.tree.lookup (name :: sandboxPlace ground back) ≠ none →
      IsPlainName name ∧ Path.IsUsable (Path.join (inside root).sandboxDir name)) :
    ∃ after, emptyDirectory (inside root).sandboxDir before = (.ok (), after) ∧
      after.faults = [] := by
  have read := readDirectory_of_leads noFaults (anchored.leads plain directory) usable
  rw [emptyDirectory, Effect.bind_of_ok (reportedFor_of_ok read)]
  have start : LeavesToRemove before (sandboxPlace ground back)
      (before.tree.names (sandboxPlace ground back)) before := by
    refine ⟨noFaults, .refl _ _, distinct, fun name isMember => ?_⟩
    obtain ⟨entry, there⟩ := Tree.mem_names_iff.mp isMember
    simp [there]
  refine (Effect.forM_of_steps start ?_).imp fun _ ends => ⟨ends.1, ends.2.calm⟩
  rintro name rest disk ⟨quiet, empties, different, present⟩
  obtain ⟨entry, there⟩ := Option.ne_none_iff_exists'.mp (present name List.mem_cons_self)
  have here := empties.lookup_place.trans directory
  have anchoredHere := anchored.kept empties.keepsOutside (by simp [here])
  have proper : Path.IsProper name := empties.wellNamed named _ entry there name List.mem_cons_self
  obtain ⟨plainName, usableName⟩ := fits name fun missing => by
    cases (empties.gone missing).symm.trans there
  obtain ⟨next, removed, calm⟩ :=
    removeInside_of_anchored quiet anchoredHere plain here proper plainName usableName there
  obtain ⟨current, tree⟩ := removeInside_clears anchoredHere plain here proper removed
  obtain ⟨notLater, differentRest⟩ := List.nodup_cons.mp different
  refine ⟨next, removed, calm, empties.trans (.clear here current tree), differentRest, ?_⟩
  intro other isMember
  rw [tree, Tree.lookup_clear]
  · exact present other (List.mem_cons_of_mem _ isMember)
  · intro below
    have same := below.eq_of_length (by simp)
    exact notLater ((List.cons.inj same).1 ▸ isMember)

end Emptying

section Copying

variable {destination name : String} {source place : Place} {shows : List String → Option Entry}
variable {start : Disk} {names : List String} {entry : Entry}

/-- Whatever has been sown of a seed, the rest of it is as it was, and there is room for it in an
empty directory. -/
structure IsCopyable (path destination : String) (source place : Place)
    (shows : List String → Option Entry) (start : Disk) : Prop where
  fallow : start.IsFallow destination place shows
  steady : IsSteady path place shows start
  named : ∀ disk, start.Sows place shows disk → disk.tree.IsWellNamed
  leads : ∀ disk, start.Sows place shows disk → disk.tree.Leads disk.current path source
  plain : ∀ disk, start.Sows place shows disk → ∀ (names : List String) (entry : Entry),
    disk.tree.lookup (names.reverse ++ source) = some entry →
      entry = .directory ∨ ∃ identity content executable, entry = .file identity content executable
  fits : ∀ disk, start.Sows place shows disk → ∀ names : List String,
    disk.tree.lookup (names.reverse ++ source) ≠ none → (∀ name ∈ names, IsPlainName name) ∧
      Path.IsUsable (Path.joinAll path names) ∧ Path.IsUsable (Path.joinAll destination names)

namespace IsCopyable

theorem proper (copyable : IsCopyable path destination source place shows start)
    (sown : start.Sows place shows before)
    (there : before.tree.lookup (names.reverse ++ source) = some entry) :
    ∀ name ∈ names, Path.IsProper name := fun name isMember =>
  copyable.named before sown _ entry there name
    (List.mem_append_left _ (List.mem_reverse.mpr isMember))

/-- An entry of the seed is found behind the path of the seed. -/
theorem entryAt?_eq (copyable : IsCopyable path destination source place shows start)
    (sown : start.Sows place shows before)
    (there : before.tree.lookup (names.reverse ++ source) = some entry) :
    before.entryAt? (Path.joinAll path names) = .ok entry := by
  obtain ⟨plain, usable, -⟩ := copyable.fits before sown names (by simp [there])
  have leads := copyable.leads before sown
  rw [Disk.entryAt?, Disk.find]
  by_cases whole : names = []
  · subst whole
    cases leads.lookup.symm.trans there
    rw [Path.joinAll, List.foldl_nil, leads.find usable]
  · rw [leads.find_present whole (copyable.proper sown there) plain usable there]
    rintro target rfl
    rcases copyable.plain before sown names _ there with same | ⟨_, _, _, same⟩ <;> cases same

/-- What has been sown in the place of an entry is like it. -/
theorem likeness_eq (copyable : IsCopyable path destination source place shows start)
    (sown : start.Sows place shows before) (notNil : names ≠ [])
    (there : before.tree.lookup (names.reverse ++ source) = some entry) {copied : Entry}
    (found : before.tree.lookup (names.reverse ++ place) = some copied) :
    copied.likeness = entry.likeness := by
  have isShown := (sown.shown copyable.fallow notNil found).2
  have seen := Disk.seen?_of_entryAt? (copyable.entryAt?_eq sown there)
  rw [copyable.steady before sown names (copyable.proper sown there), isShown] at seen
  exact Option.some.inj seen

theorem leads_copy (copyable : IsCopyable path destination source place shows start)
    (sown : start.Sows place shows before)
    (here : before.tree.lookup (names.reverse ++ place) = some .directory)
    (there : before.tree.lookup ((names ++ [name]).reverse ++ source) = some entry) :
    before.tree.Leads before.current (Path.joinAll destination names) (names.reverse ++ place) := by
  obtain ⟨plain, -, -⟩ := copyable.fits before sown (names ++ [name]) (by rw [there]; nofun)
  have proper := copyable.proper sown there
  exact (sown.leads copyable.fallow).below (fun other isMember => proper other (by simp [isMember]))
    (fun other isMember => plain other (by simp [isMember])) here

theorem makesCopy (copyable : IsCopyable path destination source place shows start)
    (sown : start.Sows place shows before) (quiet : before.faults = [])
    (here : before.tree.lookup (names.reverse ++ place) = some .directory)
    (there : before.tree.lookup ((names ++ [name]).reverse ++ source) = some .directory) :
    ∃ after, makeDirectories (Path.joinAll destination (names ++ [name])) before =
      (.ok (), after) ∧ after.faults = [] := by
  obtain ⟨plain, -, usable⟩ := copyable.fits before sown (names ++ [name]) (by rw [there]; nofun)
  have spelled : (names ++ [name]).reverse ++ place = name :: (names.reverse ++ place) := by simp
  have isOpen : before.tree.lookup (name :: (names.reverse ++ place)) = none ∨
      before.tree.lookup (name :: (names.reverse ++ place)) = some .directory := by
    rw [← spelled]
    cases found : before.tree.lookup ((names ++ [name]).reverse ++ place) with
    | none => exact .inl rfl
    | some copied =>
        have alike := copyable.likeness_eq sown (by simp) there found
        cases copied <;> simp_all [Entry.likeness]
  rw [Path.joinAll_concat] at usable ⊢
  exact makeDirectories_of_leads quiet (copyable.leads_copy sown here there)
    (copyable.proper sown there name (by simp)) (plain name (by simp)) usable isOpen

theorem copiesFile (copyable : IsCopyable path destination source place shows start)
    (sown : start.Sows place shows before) (quiet : before.faults = [])
    (here : before.tree.lookup (names.reverse ++ place) = some .directory)
    {identity : Nat} {content : ByteArray} {executable : Bool}
    (there : before.tree.lookup ((names ++ [name]).reverse ++ source) =
      some (.file identity content executable)) :
    ∃ after, copyFile (Path.joinAll path (names ++ [name]))
      (Path.joinAll destination (names ++ [name])) before = (.ok (), after) ∧
        after.faults = [] := by
  obtain ⟨plain, -, usable⟩ := copyable.fits before sown (names ++ [name]) (by rw [there]; nofun)
  have writable : Entry.IsWritable (before.tree.lookup (name :: (names.reverse ++ place))) := by
    intro copied found
    have alike := copyable.likeness_eq sown (by simp) there (by simpa using found)
    obtain ⟨other, same⟩ := Entry.eq_file_of_likeness alike
    exact ⟨other, content, executable, same⟩
  have isEntry := copyable.entryAt?_eq sown there
  rw [Path.joinAll_concat destination] at usable ⊢
  exact copyFile_of_leads quiet isEntry (copyable.leads_copy sown here there)
    (copyable.proper sown there name (by simp)) (plain name (by simp)) usable writable

theorem copyInside (copyable : IsCopyable path destination source place shows start) {levels : Nat}
    (deeper : ∀ {disk}, start.Sows place shows disk → disk.faults = [] →
      disk.tree.lookup ((names ++ [name]).reverse ++ place) = some .directory →
      disk.tree.lookup ((names ++ [name]).reverse ++ source) = some .directory →
      ∃ after, copyTree levels (Path.joinAll path (names ++ [name]))
        (Path.joinAll destination (names ++ [name])) disk = (.ok (), after) ∧ after.faults = [])
    (sown : start.Sows place shows before) (quiet : before.faults = [])
    (here : before.tree.lookup (names.reverse ++ place) = some .directory)
    (there : before.tree.lookup ((names ++ [name]).reverse ++ source) = some entry) :
    ∃ after, (do
      let inner := Path.joinAll path (names ++ [name])
      let copy := Path.joinAll destination (names ++ [name])
      if ← Task.ask (·.isDirectory inner) then
        (makeDirectories copy).reportedFor copy
        copyTree levels inner copy
      else
        (copyFile inner copy).reportedFor inner : Task Unit) before = (.ok (), after) ∧
      after.faults = [] := by
  have proper := copyable.proper sown there
  have isEntry := copyable.entryAt?_eq sown there
  have asked {isDirectory : Bool}
      (same : before.isDirectory (Path.joinAll path (names ++ [name])) = isDirectory) :
      (Task.ask (·.isDirectory (Path.joinAll path (names ++ [name]))) : Task Bool) before =
        (.ok isDirectory, before) := by
    rw [Task.ask, same]
  simp only
  rcases copyable.plain before sown _ _ there with rfl | ⟨identity, content, executable, rfl⟩
  · obtain ⟨between, makes, calm⟩ := copyable.makesCopy sown quiet here there
    have isShown : shows (names ++ [name]) = some .directory := by
      rw [← copyable.steady before sown _ proper]
      exact Disk.seen?_of_entryAt? isEntry
    obtain ⟨sows, made⟩ := sown.makeDirectories copyable.fallow proper here isShown makes
    obtain ⟨after, copied, quietAfter⟩ :=
      deeper (sown.trans sows) calm made (sows.keepsDirectory there)
    refine ⟨after, ?_, quietAfter⟩
    rw [Effect.bind_of_ok (asked (by rw [Disk.isDirectory, isEntry])), if_pos rfl,
      Effect.bind_of_ok (reportedFor_of_ok makes)]
    exact copied
  · obtain ⟨after, copied, calm⟩ := copyable.copiesFile sown quiet here there
    refine ⟨after, ?_, calm⟩
    rw [Effect.bind_of_ok (asked (by rw [Disk.isDirectory, isEntry])), if_neg (by simp)]
    exact reportedFor_of_ok copied

/-- Some names in a directory of the seed are left to be copied, and nothing but what has been
copied already has changed. -/
structure LeavesToCopy (before : Disk) (source place : Place)
    (shows : List String → Option Entry) (remaining : List String) (disk : Disk) : Prop where
  calm : disk.faults = []
  sows : before.Sows place shows disk
  listed : ∀ name ∈ remaining, name ∈ before.tree.names source

/-- A seed is copied to its last level, because the path of each level is longer and still short
enough. -/
theorem copyTree (copyable : IsCopyable path destination source place shows start) {levels : Nat}
    (sown : start.Sows place shows before) (quiet : before.faults = [])
    (here : before.tree.lookup (names.reverse ++ place) = some .directory)
    (there : before.tree.lookup (names.reverse ++ source) = some .directory)
    (enough : pathLimit ≤ names.length + levels) :
    ∃ after, Workspace.copyTree levels (Path.joinAll path names) (Path.joinAll destination names)
      before = (.ok (), after) ∧ after.faults = [] := by
  induction levels generalizing names before with
  | zero =>
      obtain ⟨-, usable, -⟩ := copyable.fits before sown names (by simp [there])
      have longer := Path.length_le_joinAll (copyable.proper sown there) path
      exact absurd usable.short (by simp only [not_not]; omega)
  | succ levels ih =>
      obtain ⟨plain, usable, -⟩ := copyable.fits before sown names (by simp [there])
      have leads := (copyable.leads before sown).below (copyable.proper sown there) plain there
      have read := readDirectory_of_leads quiet leads usable
      rw [Workspace.copyTree, Effect.bind_of_ok (reportedFor_of_ok read)]
      simp only [← Path.joinAll_concat]
      have begins : LeavesToCopy before (names.reverse ++ source) place shows
          (before.tree.names (names.reverse ++ source)) before :=
        ⟨quiet, .refl _ _ _, fun _ isMember => isMember⟩
      refine (Effect.forM_of_steps begins ?_).imp fun _ ends => ⟨ends.1, ends.2.calm⟩
      rintro name rest disk ⟨calm, sows, listed⟩
      have whole := sown.trans sows
      have hereNow := sows.keepsDirectory here
      obtain ⟨entry, found⟩ : ∃ entry,
          disk.tree.lookup ((names ++ [name]).reverse ++ source) = some entry := by
        have isListed := Tree.mem_names_iff.mp (listed name List.mem_cons_self)
        simpa using sows.stays isListed
      have proper := copyable.proper whole found
      obtain ⟨next, copied, quietNext⟩ := copyable.copyInside
        (fun sownDeeper quietDeeper hereDeeper thereDeeper =>
          ih sownDeeper quietDeeper hereDeeper thereDeeper (by simp; omega))
        whole calm hereNow found
      have more := (copyInside_done copyable.fallow copyable.steady
        (fun sownDeeper hereDeeper copiedDeeper => copyTree_done copyable.fallow copyable.steady
          copyable.named sownDeeper proper hereDeeper copiedDeeper) whole proper hereNow copied).1
      exact ⟨next, copied, quietNext, sows.trans more,
        fun other isMember => listed other (List.mem_cons_of_mem _ isMember)⟩

end IsCopyable

end Copying

/-- The names and paths that a reset meets are short enough, and the names in the sandbox directory
are different. -/
structure HasRoom (root path : String) (back : List String) (sandbox source : Place)
    (disk : Disk) : Prop where
  names : ∀ place entry, disk.tree.lookup place = some entry →
    ∀ name ∈ place, name.utf8ByteSize ≤ nameLimit
  missing : ∀ name ∈ back, name.utf8ByteSize ≤ nameLimit
  distinct : (disk.tree.names sandbox).Nodup
  sources : Path.IsUsable (inside root).sourceDir
  classes : Path.IsUsable (inside root).classDir
  emptied : ∀ name, disk.tree.lookup (name :: sandbox) ≠ none →
    Path.IsUsable (Path.join (inside root).sandboxDir name)
  seed : ∀ inner : List String, disk.tree.lookup (inner.reverse ++ source) ≠ none →
    Path.IsUsable (Path.joinAll path inner) ∧
      Path.IsUsable (Path.joinAll (inside root).sourceDir inner)

namespace HasRoom

variable {sandbox source : Place}

theorem plain (room : HasRoom root path back sandbox source before)
    (named : before.tree.IsWellNamed) {place : Place} {entry : Entry}
    (found : before.tree.lookup place = some entry) {name : String} (isMember : name ∈ place) :
    IsPlainName name :=
  isPlainName_of_isProper (named place entry found name isMember)
    (by simpa using room.names place entry found name isMember)

theorem plainNames (room : HasRoom root path back sandbox source before)
    (anchored : IsAnchored root ground back before) :
    ∀ name ∈ sandboxNames back, IsPlainName name := by
  intro name isMember
  refine isPlainName_of_isProper (anchored.properNames name isMember) ?_
  rcases List.mem_append.mp isMember with isMember | isMember
  · simpa using room.missing name isMember
  · obtain rfl := List.mem_singleton.mp isMember
    decide

end HasRoom

section Resets

theorem IsAnchored.makeable (anchored : IsAnchored root ground back cleared)
    (plain : ∀ name ∈ sandboxNames back, IsPlainName name)
    (usable : Path.IsUsable (inside root).sourceDir)
    (isOpen : cleared.tree.IsOpenBelow ground (sandboxNames back))
    (vacant : IsVacant ground back cleared) : ∃ front,
    IsMakeable (inside root).sourceDir front (sandboxNames back ++ ["sources"]) ground cleared := by
  have properName : ∀ name ∈ ["sources"], Path.IsProper name := by decide
  obtain ⟨front, reaches, spelled⟩ := anchored.spelled properName
  refine ⟨front, .inr usable, spelled, fun _ => ?_, reaches,
    properAll anchored.properNames properName, ?_, ?_⟩
  · obtain ⟨begins, written, -⟩ := Path.segments_joinAll properName (inside root).sandboxDir
    exact ⟨begins, "sources", written, by decide⟩
  · intro name isMember
    rcases List.mem_append.mp isMember with isMember | isMember
    · exact plain name isMember
    · obtain rfl := List.mem_singleton.mp isMember
      exact isPlainName_of_isProper (by decide) (by decide)
  · intro shown isPrefix
    rcases List.prefix_concat_iff.mp isPrefix with rfl | isPrefix
    · refine .inl ?_
      simpa [sandboxPlace] using vacant.sources
    · exact isOpen shown isPrefix

/-- Where nothing is in the place of the sandbox directory, its path leads nowhere. -/
theorem IsAnchored.pathExists_of_free (anchored : IsAnchored root ground back before)
    (free : before.tree.lookup (sandboxPlace ground back) = none) :
    before.pathExists (inside root).sandboxDir = false := by
  rw [Bool.eq_false_iff, Ne, Disk.pathExists_iff]
  rintro ⟨place, entry, found⟩
  have proper : ∀ name ∈ ["sandbox"], Path.IsProper name := by decide
  obtain ⟨holder, leads⟩ := Tree.leads_of_find_joinAll proper found
  obtain ⟨front, written, reaches⟩ := anchored.reaches
  have reachesHere := reaches before.tree fun _ _ _ _ there => there
  have further := leads
  rw [Tree.Leads, written] at further
  have plain : before.tree.IsPlainBelow ground back := fun shown isPrefix =>
    anchored.noLink shown (isPrefix.trans (List.prefix_append _ _))
  obtain ⟨rfl, -⟩ := reachesHere.down anchored.proper plain further
  obtain ⟨atPlace, -⟩ := leads.find_below (by simp) proper
    (.singleton (by simp [← sandboxPlace_eq, free])) found
  have there := Tree.find_ends found
  rw [atPlace] at there
  rw [sandboxPlace_eq] at free
  cases free.symm.trans there

/-- The seed can be sown whenever the sandbox directory has been emptied and its source directory
made, and nothing is then where the classes belong. -/
def CanSow (seed : Seed) (root : String) (ground : Place) (back : List String) (before : Disk) :
    Prop :=
  ∀ cleared made, before.Empties (sandboxPlace ground back) cleared →
    IsAnchored root ground back cleared → IsVacant ground back cleared →
    MakesInside root ground back "sources" cleared made → made.faults = [] →
    made.tree.IsWellNamed → ∃ sown, (inside root).sow seed made = (.ok (), sown) ∧
      sown.faults = [] ∧ sown.tree.lookup ("classes" :: sandboxPlace ground back) = none

/-- An emptied sandbox directory is made ready when the seed can be sown. -/
theorem ready_of_sow {source : Place} (named : before.tree.IsWellNamed)
    (anchored : IsAnchored root ground back before)
    (room : HasRoom root path back (sandboxPlace ground back) source before)
    (isOpen : before.tree.IsOpenBelow ground (sandboxNames back))
    (sows : CanSow seed root ground back before) (quiet : cleared.faults = [])
    (empties : before.Empties (sandboxPlace ground back) cleared)
    (anchoredCleared : IsAnchored root ground back cleared)
    (vacant : IsVacant ground back cleared) :
    ∃ fresh after, (inside root).ensureReady seed cleared = (.ok fresh, after) := by
  have plain := room.plainNames anchored
  have isOpenCleared : cleared.tree.IsOpenBelow ground (sandboxNames back) := by
    intro shown isPrefix
    rcases empties.places (shown.reverse ++ ground) with same | ⟨missing, -⟩
    · rw [same]
      exact isOpen shown isPrefix
    · exact .inl missing
  obtain ⟨front, makeable⟩ := anchoredCleared.makeable plain room.sources isOpenCleared vacant
  obtain ⟨made, makes, calm⟩ := makeable.makeDirectories quiet
  have first : MakesInside root ground back "sources" cleared made :=
    makesInside anchoredCleared (by decide) (by simp [vacant.sources]) makes
  obtain ⟨sown, sowing, calmSown, noClasses⟩ :=
    sows cleared made empties anchoredCleared vacant first calm
      (((Disk.Extends.makeDirectories _).states makes).named (empties.wellNamed named))
  have adds := (extends_sow (inside root) seed).states sowing
  have directory := adds.builds.keeps _ _ rfl first.sandbox
  have anchoredSown := (anchoredCleared.kept first.keeps (by simp [first.sandbox])).extended adds
  obtain ⟨after, ends, -⟩ := makeDirectories_of_leads calmSown
    (anchoredSown.leads plain directory) (by decide)
    (isPlainName_of_isProper (by decide) (by decide)) room.classes (.inl noClasses)
  obtain ⟨fresh, done⟩ := ensureReady_of_steps
    (pathExists_of_noSources anchoredCleared vacant.sources) makes sowing ends
  exact ⟨fresh, after, done⟩

/-- A reset succeeds when the seed can be sown into the new source directory. -/
theorem reset_of_sow {source : Place} (noFaults : before.faults = [])
    (named : before.tree.IsWellNamed) (anchored : IsAnchored root ground back before)
    (room : HasRoom root path back (sandboxPlace ground back) source before)
    (isOpen : before.tree.IsOpenBelow ground (sandboxNames back))
    (sows : CanSow seed root ground back before) :
    ∃ after, (inside root).reset seed before = (.ok (), after) := by
  have plain := room.plainNames anchored
  rcases isOpen (sandboxNames back) (List.prefix_refl _) with free | directory
  · have vacant : IsVacant ground back before := fun other isInside different =>
      Tree.lookup_below (by simp [sandboxPlace, free]) isInside different.symm
    obtain ⟨fresh, after, done⟩ :=
      ready_of_sow named anchored room isOpen sows noFaults (.refl _ _) anchored vacant
    have asked : (Task.ask (·.pathExists (inside root).sandboxDir) : Task Bool) before =
        (.ok false, before) := by
      rw [Task.ask, anchored.pathExists_of_free free]
    refine ⟨after, ?_⟩
    rw [reset, Effect.bind_of_ok asked, if_neg (by simp)]
    exact (Effect.bind_of_ok done).trans rfl
  · have usable := isUsable_sandboxDir room.sources
    have found := (anchored.leads plain directory).find usable
    have asked : (Task.ask (·.pathExists (inside root).sandboxDir) : Task Bool) before =
        (.ok true, before) := by
      rw [Task.ask, Disk.pathExists_iff.mpr ⟨_, _, found⟩]
    obtain ⟨cleared, emptied, quiet⟩ := emptyDirectory_of_anchored noFaults named
      room.distinct anchored plain usable directory fun name present => by
        obtain ⟨entry, there⟩ := Option.ne_none_iff_exists'.mp present
        exact ⟨room.plain named there List.mem_cons_self, room.emptied name present⟩
    obtain ⟨-, empties, vacant⟩ := emptyDirectory_done named anchored emptied
    have here := empties.lookup_place.trans directory
    obtain ⟨fresh, after, done⟩ := ready_of_sow named anchored room isOpen sows quiet empties
      (anchored.kept empties.keepsOutside (by simp [here])) vacant
    refine ⟨after, ?_⟩
    rw [reset, Effect.bind_of_ok asked, if_pos rfl, Effect.bind_of_ok emptied]
    exact (Effect.bind_of_ok done).trans rfl

/-- The path of a plain seed leads to it still, when nothing has changed but in the sandbox. -/
theorem IsPlainSeed.leads_room (seeded : IsPlainSeed path base inner (sandboxPlace ground back) before)
    (named : before.tree.IsWellNamed) (anchored : IsAnchored root ground back before)
    (room : HasRoom root path back (sandboxPlace ground back) (inner.reverse ++ base) before)
    (keeps : before.KeepsOutside (sandboxPlace ground back) after)
    (there : after.tree.lookup (inner.reverse ++ base) = some .directory) :
    after.tree.Leads after.current path (inner.reverse ++ base) := by
  refine seeded.leads_kept keeps anchored.noLink_sandbox (fun name isMember => ?_) there
  exact room.plain named seeded.directory (List.mem_append_left _ (List.mem_reverse.mpr isMember))

theorem MakesInside.names_sources (first : MakesInside root ground back "sources" cleared made)
    (vacant : IsVacant ground back cleared) :
    made.tree.names ("sources" :: sandboxPlace ground back) = [] := by
  refine List.eq_nil_iff_forall_not_mem.mpr fun name isMember => ?_
  obtain ⟨entry, there⟩ := Tree.mem_names_iff.mp isMember
  have isInside : sandboxPlace ground back <:+ name :: "sources" :: sandboxPlace ground back :=
    (List.suffix_cons _ _).trans (List.suffix_cons _ _)
  rcases (first.eq_directory vacant isInside there).2 with same | same <;>
  · have lengths := congrArg List.length same
    simp only [List.length_cons] at lengths
    omega

/-- The new source directory can be sown from itself, because nothing is in it. -/
theorem sow_itself (vacant : IsVacant ground back cleared)
    (first : MakesInside root ground back "sources" cleared made) (noFaults : made.faults = [])
    (leads : made.tree.Leads made.current path ("sources" :: sandboxPlace ground back))
    (usable : Path.IsUsable path) : (inside root).sow (.directory path) made = (.ok (), made) := by
  have read := readDirectory_of_leads noFaults leads usable
  change copyTree (4095 + 1) path (inside root).sourceDir made = _
  rw [copyTree, Effect.bind_of_ok (reportedFor_of_ok read), first.names_sources vacant]
  rfl

/-- Whatever the schedule of faults is, sowing the source directory from itself adds nothing. -/
theorem tree_of_sow_itself {sown : Disk} (vacant : IsVacant ground back cleared)
    (first : MakesInside root ground back "sources" cleared made)
    (leads : ∀ place, made.find path = .ok (.present place .directory) →
      made.tree.Leads made.current path ("sources" :: sandboxPlace ground back))
    (sows : (inside root).sow (.directory path) made = (.ok (), sown)) :
    sown.tree = made.tree := by
  have copied : copyTree (4095 + 1) path (inside root).sourceDir made = (.ok (), sown) := sows
  obtain ⟨_, _, read, copied⟩ := Effect.bind_ok copied
  obtain ⟨place, found, rfl, rfl⟩ := readDirectory_done (reportedFor_ok read)
  obtain rfl := (leads place found).unique (Tree.leads_of_find found)
  rw [first.names_sources vacant] at copied
  cases copied
  exact made.nextFault_tree

section Apart

variable (seeded : IsPlainSeed path base inner (sandboxPlace ground back) before)
variable (named : before.tree.IsWellNamed) (anchored : IsAnchored root ground back before)
variable (notInside : ¬ sandboxPlace ground back <:+ inner.reverse ++ base)
variable (notAround : ¬ inner.reverse ++ base <:+ sandboxPlace ground back)

include seeded named anchored notInside notAround

/-- A plain seed that is neither in the sandbox directory nor around it does not depend on it. -/
theorem IsPlainSeed.isApart
    (room : HasRoom root path back (sandboxPlace ground back) (inner.reverse ++ base) before) :
    (Seed.directory path).IsApart (sandboxPlace ground back) before := by
  refine Seed.isApart_of_leads (fun other keeps => ?_)
    (fun other keeps place isInside => keeps.same_below notInside notAround isInside)
    fun place isInside target => seeded.noLink isInside target
  refine seeded.leads_room named anchored room keeps ?_
  rw [keeps.same_below notInside notAround (List.suffix_refl _), seeded.directory]

theorem sow_apart
    (room : HasRoom root path back (sandboxPlace ground back) (inner.reverse ++ base) before)
    (keeps : before.KeepsOutside (sandboxPlace ground back) cleared)
    (namedMade : made.tree.IsWellNamed)
    (anchoredCleared : IsAnchored root ground back cleared) (vacant : IsVacant ground back cleared)
    (first : MakesInside root ground back "sources" cleared made) (noFaults : made.faults = []) :
    ∃ sown, (inside root).sow (.directory path) made = (.ok (), sown) ∧ sown.faults = [] ∧
      sown.tree.lookup ("classes" :: sandboxPlace ground back) = none := by
  have apart := (seeded.isApart named anchored notInside notAround room).kept keeps
  have keepsLater {later : Disk} (sows : made.Sows ("sources" :: sandboxPlace ground back)
      ((Seed.directory path).shows cleared) later) :
      cleared.KeepsOutside (sandboxPlace ground back) later :=
    first.keeps.trans (sows.keepsOutside (List.suffix_cons _ _))
  have same {later : Disk} (sows : made.Sows ("sources" :: sandboxPlace ground back)
      ((Seed.directory path).shows cleared) later) {place : Place}
      (isInside : inner.reverse ++ base <:+ place) :
      later.tree.lookup place = before.tree.lookup place :=
    (keeps.trans (keepsLater sows)).same_below notInside notAround isInside
  have copyable : IsCopyable path (inside root).sourceDir (inner.reverse ++ base)
      ("sources" :: sandboxPlace ground back) ((Seed.directory path).shows cleared) made := by
    refine ⟨first.isFallow anchoredCleared vacant.sources _ cleared,
      fun later sows => apart later (keepsLater sows),
      fun later sows => sows.wellNamed namedMade first.made, fun later sows => ?_,
      fun later sows names entry found => ?_, fun later sows names present => ?_⟩
    · refine seeded.leads_room named anchored room (keeps.trans (keepsLater sows)) ?_
      rw [same sows (List.suffix_refl _), seeded.directory]
    · rw [same sows (List.suffix_append _ _)] at found
      exact seeded.plain _ entry (List.suffix_append _ _) found
    · rw [same sows (List.suffix_append _ _)] at present
      obtain ⟨entry, there⟩ := Option.ne_none_iff_exists'.mp present
      refine ⟨fun name isMember => ?_, room.seed names present⟩
      exact room.plain named there (List.mem_append_left _ (List.mem_reverse.mpr isMember))
  have begins : made.Sows ("sources" :: sandboxPlace ground back)
      ((Seed.directory path).shows cleared) made := .refl _ _ _
  obtain ⟨sown, copied, quiet⟩ : ∃ sown, copyTree pathLimit (Path.joinAll path [])
      (Path.joinAll (inside root).sourceDir []) made = (.ok (), sown) ∧ sown.faults = [] :=
    copyable.copyTree begins noFaults first.made
      ((same begins (List.suffix_refl _)).trans seeded.directory) (by simp)
  have sows := (copyTree_done copyable.fallow copyable.steady copyable.named begins
    (List.forall_mem_nil _) first.made copied).1
  exact ⟨sown, copied, quiet, first.noClasses_of_sown anchoredCleared vacant sows⟩

/-- What is copied of such a seed are entries that it had when the reset began. -/
theorem contents_of_apart
    (room : HasRoom root path back (sandboxPlace ground back) (inner.reverse ++ base) before)
    (done : (inside root).reset (.directory path) before = (.ok (), after)) :
    after.tree.contents ("sources" :: sandboxPlace ground back) ⊆
      before.tree.contents (inner.reverse ++ base) := by
  intro names isInside
  obtain ⟨notNil, present⟩ := isInside
  have apart := seeded.isApart named anchored notInside notAround room
  have leads := seeded.leads_room named anchored room (.refl _ _) seeded.directory
  have held := (isReset_of_reset named anchored apart done).layout ("sources" :: names)
  have spelled : ("sources" :: names).reverse ++ sandboxPlace ground back =
      names.reverse ++ "sources" :: sandboxPlace ground back := by simp
  rw [spelled, Seed.layout, if_pos rfl, if_neg notNil] at held
  obtain ⟨entry, there⟩ := Option.ne_none_iff_exists'.mp present
  rw [there] at held
  split at held
  next proper =>
    obtain ⟨place, source, found, -⟩ := Disk.find_of_seen? held.symm
    have plain : before.tree.IsPlainBelow (inner.reverse ++ base) names := fun _ _ _ target =>
      seeded.noLink (List.suffix_append _ _) target
    obtain ⟨rfl, -⟩ := leads.find_below notNil proper plain found
    have isThere : before.tree.lookup (names.reverse ++ (inner.reverse ++ base)) = some source :=
      Tree.find_ends found
    exact ⟨notNil, by simp [isThere]⟩
  next => cases held

end Apart

theorem contents_of_itself
    (seeded : IsPlainSeed path base inner (sandboxPlace ground back) before)
    (named : before.tree.IsWellNamed) (anchored : IsAnchored root ground back before)
    (isSource : inner.reverse ++ base = "sources" :: sandboxPlace ground back)
    (done : (inside root).reset (.directory path) before = (.ok (), after)) :
    after.tree.contents ("sources" :: sandboxPlace ground back) ⊆
      before.tree.contents (inner.reverse ++ base) := by
  obtain ⟨cleared, made, sown, empties, namedCleared, anchoredCleared, vacant, makes, sows, ends⟩ :=
    reset_done named anchored done
  have first : MakesInside root ground back "sources" cleared made :=
    makesInside anchoredCleared (by decide) (by simp [vacant.sources]) makes
  have same : sown.tree = made.tree := tree_of_sow_itself vacant first (fun place found =>
    isSource ▸ seeded.leads_made anchored empties.keepsOutside vacant first found) sows
  have adds := (extends_sow (inside root) _).states sows
  have anchoredSown := (anchoredCleared.kept first.keeps (by simp [first.sandbox])).extended adds
  have nothing {place : Place} (isInside : sandboxPlace ground back <:+ place)
      (notSandbox : place ≠ sandboxPlace ground back)
      (notSource : place ≠ "sources" :: sandboxPlace ground back) :
      sown.tree.lookup place = none := by
    rw [same]
    exact first.vacant vacant isInside notSandbox notSource
  have last : MakesInside root ground back "classes" sown after := by
    refine makesInside anchoredSown (by decide) (fun target => ?_) ends
    rw [nothing (List.suffix_cons _ _) (List.cons_ne_self _ _) (by simp)]
    nofun
  rintro names ⟨notNil, present⟩
  refine absurd ?_ present
  have isInside : sandboxPlace ground back <:+
      names.reverse ++ "sources" :: sandboxPlace ground back :=
    (List.suffix_cons _ _).trans (List.suffix_append _ _)
  rw [last.same _ isInside ne_sandboxPlace fun here => ?_]
  · refine nothing isInside ne_sandboxPlace fun here => notNil ?_
    simpa using here
  · exact absurd (@spelled_inj _ _ _ [] _ here).1 (by decide)

/-- A reset that succeeds has found nothing but directories on the way to the sandbox directory. -/
theorem isOpen_of_reset (named : before.tree.IsWellNamed)
    (anchored : IsAnchored root ground back before)
    (done : (inside root).reset seed before = (.ok (), after)) :
    before.tree.IsOpenBelow ground (sandboxNames back) := by
  obtain ⟨cleared, made, sown, empties, -, anchoredCleared, vacant, makes, -⟩ :=
    reset_done named anchored done
  have first : MakesInside root ground back "sources" cleared made :=
    makesInside anchoredCleared (by decide) (by simp [vacant.sources]) makes
  intro shown isPrefix
  have around : shown.reverse ++ ground <:+ sandboxPlace ground back :=
    spelled_suffix isPrefix ground
  have directory : made.tree.lookup (shown.reverse ++ ground) = some .directory := by
    by_cases whole : shown.reverse ++ ground = sandboxPlace ground back
    · rw [whole, first.sandbox]
    · exact Tree.lookup_of_suffix first.sandbox around whole
  rcases empties.places (shown.reverse ++ ground) with same | ⟨-, inside, different⟩
  · rw [← same]
    rcases ((Disk.AddsDirectories.makeDirectories _).states makes).places (shown.reverse ++ ground)
      with kept | ⟨free, -⟩
    · exact .inr (kept.symm.trans directory)
    · exact .inl free
  · exact absurd (around.eq_of_length_le inside.length_le) different

/-- Where no fault strikes and names and paths are short enough, a reset from a directory of
directories and files succeeds, with no more entries in the source directory than the seed had,
exactly when there are only directories on the way to the sandbox directory, as far as something
is there, and the seed does not overlap it. -/
theorem reset_isBounded_iff {path root : String} {base ground : Place} {inner back : List String}
    {before : Disk} (noFaults : before.faults = []) (named : before.tree.IsWellNamed)
    (anchored : IsAnchored root ground back before)
    (seeded : IsPlainSeed path base inner (sandboxPlace ground back) before)
    (room : HasRoom root path back (sandboxPlace ground back) (inner.reverse ++ base) before) :
    (∃ after, (inside root).reset (.directory path) before = (.ok (), after) ∧
      (after.tree.contents ("sources" :: sandboxPlace ground back)).ncard ≤
        (before.tree.contents (inner.reverse ++ base)).ncard) ↔
    before.tree.IsOpenBelow ground (sandboxNames back) ∧
      ¬ Overlaps (inner.reverse ++ base) (sandboxPlace ground back) := by
  constructor
  · rintro ⟨after, done, -⟩
    exact ⟨isOpen_of_reset named anchored done,
      fun overlaps => not_reset_of_overlaps named anchored seeded overlaps done⟩
  · rintro ⟨isOpen, notOverlaps⟩
    have notAround : ¬ inner.reverse ++ base <:+ sandboxPlace ground back :=
      fun around => notOverlaps (.inl around)
    suffices bounded : ∃ after, (inside root).reset (.directory path) before = (.ok (), after) ∧
        after.tree.contents ("sources" :: sandboxPlace ground back) ⊆
          before.tree.contents (inner.reverse ++ base) by
      obtain ⟨after, done, within⟩ := bounded
      exact ⟨after, done, Set.ncard_le_ncard within (before.tree.finite_contents _)⟩
    by_cases isSource : inner.reverse ++ base = "sources" :: sandboxPlace ground back
    · obtain ⟨after, done⟩ : ∃ after,
          (inside root).reset (.directory path) before = (.ok (), after) := by
        refine reset_of_sow noFaults named anchored room isOpen ?_
        intro cleared made empties anchoredCleared vacant first calm _
        have leads := seeded.leads_room named anchored room
          (empties.keepsOutside.trans first.keeps) (isSource ▸ first.made)
        have usable := (room.seed [] (by simp [seeded.directory])).1
        refine ⟨made, sow_itself vacant first calm (isSource ▸ leads) usable, calm, ?_⟩
        exact first.vacant vacant (List.suffix_cons _ _) (List.cons_ne_self _ _) (by simp)
      exact ⟨after, done, contents_of_itself seeded named anchored isSource done⟩
    · have notInside : ¬ sandboxPlace ground back <:+ inner.reverse ++ base :=
        fun isInside => notOverlaps (.inr ⟨isInside, isSource⟩)
      obtain ⟨after, done⟩ : ∃ after,
          (inside root).reset (.directory path) before = (.ok (), after) := by
        refine reset_of_sow noFaults named anchored room isOpen ?_
        intro cleared made empties anchoredCleared vacant first calm namedMade
        exact sow_apart seeded named anchored notInside notAround room empties.keepsOutside namedMade
          anchoredCleared vacant first calm
      exact ⟨after, done,
        contents_of_apart seeded named anchored notInside notAround room done⟩

theorem isPlainSeed_linkedSandbox :
    IsPlainSeed "/kept" [] ["kept"] (sandboxPlace [] []) linkedSandbox := by
  have kinds : ∀ item ∈ linkedSandbox.tree.entriesBelow [], ["kept"] <:+ item.1 →
      item.2 = .directory ∨ item.2 = .file 0 ByteArray.empty false := by decide
  refine ⟨by decide, ⟨[], by decide, fun other _ => ?_⟩, rfl, fun place entry isInside found => ?_⟩
  · exact ⟨other.lookup_root, linkLimit, .arrived⟩
  · have notRoot : place ≠ [] := by
      rintro rfl
      simp at isInside
    rcases kinds _ (Tree.mem_entriesBelow notRoot found) isInside with same | same
    · exact .inl same
    · exact .inr ⟨_, _, _, same⟩

theorem hasRoom_linkedSandbox :
    HasRoom "/" "/kept" [] (sandboxPlace [] []) ["kept"] linkedSandbox := by
  have listed {place : Place} (notRoot : place ≠ [])
      (present : linkedSandbox.tree.lookup place ≠ none) :
      ∃ item ∈ linkedSandbox.tree.entriesBelow [], item.1 = place := by
    obtain ⟨entry, found⟩ := Option.ne_none_iff_exists'.mp present
    exact ⟨_, Tree.mem_entriesBelow notRoot found, rfl⟩
  have short : ∀ item ∈ linkedSandbox.tree.entriesBelow [], ∀ name ∈ item.1,
      name.utf8ByteSize ≤ nameLimit := by decide
  have emptied : ∀ item ∈ linkedSandbox.tree.entriesBelow [], ∀ name ∈ item.1,
      Path.IsUsable (Path.join (inside "/").sandboxDir name) := by decide
  have seed : ∀ item ∈ linkedSandbox.tree.entriesBelow [],
      Path.IsUsable (Path.joinAll "/kept" item.1.dropLast.reverse) ∧
        Path.IsUsable (Path.joinAll (inside "/").sourceDir item.1.dropLast.reverse) := by decide
  refine ⟨fun place entry found name isMember => ?_, nofun, ?_, by decide, by decide,
    fun name present => ?_, fun inner present => ?_⟩
  · have notRoot : place ≠ [] := List.ne_nil_of_mem isMember
    exact short _ (Tree.mem_entriesBelow notRoot found) name isMember
  · have names : linkedSandbox.tree.names (sandboxPlace [] []) = ["away"] :=
      List.mergeSort_singleton "away"
    rw [names]
    exact List.nodup_singleton _
  · obtain ⟨item, isMember, same⟩ := listed (List.cons_ne_nil _ _) present
    exact emptied item isMember name (same ▸ List.mem_cons_self)
  · obtain ⟨item, isMember, same⟩ := listed (by simp) present
    simpa [same] using seed item isMember

theorem reset_isBounded_linked : ∃ after,
    (inside "/").reset (.directory "/kept") linkedSandbox = (.ok (), after) ∧
      (after.tree.contents ["sources", "sandbox"]).ncard ≤
        (linkedSandbox.tree.contents ["kept"]).ncard := by
  have named : linkedSandbox.tree.IsWellNamed := .of_entries (by decide)
  refine (reset_isBounded_iff rfl named isAnchored_linkedSandbox isPlainSeed_linkedSandbox
    hasRoom_linkedSandbox).mpr ⟨fun front isPrefix => ?_, ?_⟩
  · rcases List.prefix_concat_iff.mp isPrefix with rfl | isPrefix
    · exact .inr rfl
    · obtain rfl := List.prefix_nil.mp isPrefix
      exact .inr rfl
  · rintro (around | ⟨isInside, -⟩)
    · revert around
      decide
    · revert isInside
      decide

/-- A disk whose sandbox directory holds the directory of a seed. -/
def seededSandbox : Disk :=
  { tree := ⟨[("sandbox", .directory [("seed",
      .directory [("A.java", .file 0 ByteArray.empty false)])])], 1⟩
    current := [] }

theorem isPlainSeed_seededSandbox {path : String} {inner : List String}
    (proper : ∀ name ∈ inner, Path.IsProper name) (spelled : Path.names path = inner)
    (absolute : Path.isAbsolute path = true)
    (directory : seededSandbox.tree.lookup (inner.reverse ++ []) = some .directory) :
    IsPlainSeed path [] inner (sandboxPlace [] []) seededSandbox := by
  have kinds : ∀ item ∈ seededSandbox.tree.entriesBelow [],
      item.2 = .directory ∨ item.2 = .file 0 ByteArray.empty false := by decide
  refine ⟨proper, ⟨[], spelled, fun other _ => ?_⟩, directory, fun place entry _ found => ?_⟩
  · have origin : seededSandbox.current.origin path = [] := by
      rw [Place.origin, if_pos absolute]
    rw [origin]
    exact ⟨other.lookup_root, linkLimit, .arrived⟩
  · by_cases isRoot : place = []
    · subst isRoot
      cases found
      exact .inl rfl
    · rcases kinds _ (Tree.mem_entriesBelow isRoot found) with same | same
      · exact .inl same
      · exact .inr ⟨_, _, _, same⟩

/-- A seed in the sandbox directory is removed before it is copied, and the copy of the root
directory into itself has no end, although each is a directory with a single file in it. -/
theorem reset_fails_overlapping :
    seededSandbox.faults = [] ∧
      seededSandbox.find "/sandbox/seed" = .ok (.present ["seed", "sandbox"] .directory) ∧
      seededSandbox.find "/" = .ok (.present [] .directory) ∧
      ∀ after, (inside "/").reset (.directory "/sandbox/seed") seededSandbox ≠ (.ok (), after) ∧
        (inside "/").reset (.directory "/") seededSandbox ≠ (.ok (), after) := by
  have named : seededSandbox.tree.IsWellNamed := .of_entries (by decide)
  have anchored : IsAnchored "/" [] [] seededSandbox := isAnchored_root nofun
  have within : IsPlainSeed "/sandbox/seed" [] ["sandbox", "seed"] (sandboxPlace [] [])
      seededSandbox := isPlainSeed_seededSandbox (by decide) (by decide) (by decide) rfl
  have around : IsPlainSeed "/" [] [] (sandboxPlace [] []) seededSandbox :=
    isPlainSeed_seededSandbox (by decide) (by decide) (by decide) rfl
  refine ⟨rfl, Tree.find_absolute ["", "sandbox", "seed"] (by decide) (by cbv),
    Tree.find_absolute ["", ""] (by decide) (by cbv), fun after => ⟨?_, ?_⟩⟩
  · exact not_reset_of_overlaps named anchored within (.inr ⟨by decide, by decide⟩)
  · exact not_reset_of_overlaps named anchored around (.inl (by decide))

end Resets

end Workspace

end SnippetSandbox
