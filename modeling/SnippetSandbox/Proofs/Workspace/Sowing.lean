import SnippetSandbox.Proofs.Workspace.Anchored
import SnippetSandbox.Workspace.Seed

/-!
# Filling an empty directory

Directories are made and files are filled in a directory that was empty, each of them as it
is to be shown there.  A copy of a directory shows what is seen behind the directory's path,
with links followed.  As long as that does not depend on the directory that is filled, the
copy is complete in the end, whatever its depth.
-/

namespace SnippetSandbox

open FileSystem

namespace FileSystem

/-- An entry apart from its identity, by which a file differs from its copy. -/
def Entry.likeness : Entry → Entry
  | .file _ content executable => .file 0 content executable
  | entry => entry

theorem Entry.eq_file_of_likeness {entry : Entry} {content : ByteArray} {executable : Bool}
    (alike : entry.likeness = .file 0 content executable) :
    ∃ identity, entry = .file identity content executable := by
  cases entry <;> simp_all [likeness]

theorem Entry.eq_link_of_likeness {entry : Entry} {target : String}
    (alike : entry.likeness = .link target) : entry = .link target := by
  cases entry <;> simp_all [likeness]

/-- What is seen behind a path along some names, links followed. -/
def Disk.seen? (disk : Disk) (path : String) (names : List String) : Option Entry :=
  (disk.entryAt? (Path.joinAll path names)).toOption.map Entry.likeness

/-- In the second disk are more of the entries that are shown below a place, and nothing else
has changed. -/
structure Disk.Sows (place : Place) (shows : List String → Option Entry) (before after : Disk) :
    Prop where
  current : after.current = before.current
  builds : ∀ other, Entry.Builds (before.tree.lookup other) (after.tree.lookup other)
  places : ∀ other, after.tree.lookup other = before.tree.lookup other ∨
    ∃ names entry, names ≠ [] ∧ (∀ name ∈ names, Path.IsProper name) ∧
      other = names.reverse ++ place ∧ after.tree.lookup other = some entry ∧
      shows names = some entry.likeness

/-- The path leads to a directory with nothing in it, and no link is to be put there. -/
structure Disk.IsFallow (path : String) (place : Place) (shows : List String → Option Entry)
    (disk : Disk) : Prop where
  leads : disk.tree.Leads disk.current path place
  empty : ∀ other, place <:+ other → other ≠ place → disk.tree.lookup other = none
  noLink : ∀ names, (∀ name ∈ names, Path.IsProper name) →
    ∀ target, shows names ≠ some (.link target)

namespace Disk.Sows

variable {path : String} {place : Place} {shows : List String → Option Entry}
variable {start before after : Disk} {names : List String}

theorem refl (place : Place) (shows : List String → Option Entry) (disk : Disk) :
    disk.Sows place shows disk :=
  ⟨rfl, fun _ => .same, fun _ => .inl rfl⟩

theorem trans {first second third : Disk} (one : first.Sows place shows second)
    (two : second.Sows place shows third) : first.Sows place shows third where
  current := two.current.trans one.current
  builds other := (one.builds other).trans (two.builds other)
  places other := by
    rcases two.places other with same | sown
    · rw [same]
      exact one.places other
    · exact .inr sown

theorem nextFault (place : Place) (shows : List String → Option Entry) (disk : Disk) :
    disk.Sows place shows disk.nextFault.2 :=
  ⟨disk.nextFault_current, fun _ => by rw [disk.nextFault_tree]; exact .same,
    fun _ => .inl (by rw [disk.nextFault_tree])⟩

theorem stays (sows : before.Sows place shows after) {other : Place}
    (there : ∃ entry, before.tree.lookup other = some entry) :
    ∃ entry, after.tree.lookup other = some entry := by
  obtain ⟨entry, found⟩ := there
  have builds := sows.builds other
  rw [found] at builds
  cases shown : after.tree.lookup other with
  | some later => exact ⟨later, rfl⟩
  | none =>
      rw [shown] at builds
      cases builds

theorem keepsDirectory (sows : before.Sows place shows after) {other : Place}
    (found : before.tree.lookup other = some .directory) :
    after.tree.lookup other = some .directory := by
  have builds := sows.builds other
  rw [found] at builds
  exact builds.keeps rfl

/-- Everything that has come to a directory which was empty is as it is shown. -/
theorem shown (sown : start.Sows place shows after) (fallow : start.IsFallow path place shows)
    (notNil : names ≠ []) {entry : Entry}
    (found : after.tree.lookup (names.reverse ++ place) = some entry) :
    (∀ name ∈ names, Path.IsProper name) ∧ shows names = some entry.likeness := by
  rcases sown.places (names.reverse ++ place) with
    same | ⟨others, later, -, proper, here, there, isShown⟩
  · have missing := fallow.empty (names.reverse ++ place) (List.suffix_append _ _) (by simpa)
    rw [same, missing] at found
    cases found
  · obtain rfl := List.reverse_inj.mp (List.append_cancel_right here)
    obtain rfl := Option.some.inj (found.symm.trans there)
    exact ⟨proper, isShown⟩

/-- What is sown has names that an entry can have. -/
theorem wellNamed (sows : before.Sows place shows after) (named : before.tree.IsWellNamed)
    {entry : Entry} (here : before.tree.lookup place = some entry) : after.tree.IsWellNamed := by
  intro other shown found name isMember
  rcases sows.places other with same | ⟨names, _, -, proper, rfl, -⟩
  · exact named other shown (same.symm.trans found) name isMember
  · rcases List.mem_append.mp isMember with isMember | isMember
    · exact proper name (List.mem_reverse.mp isMember)
    · exact named place entry here name isMember

/-- What is sown below a place is no change outside of whatever is around the place. -/
theorem keepsOutside (sows : before.Sows place shows after) {around : Place}
    (inside : around <:+ place) : before.KeepsOutside around after where
  current := sows.current
  outside other isOutside := by
    rcases sows.places other with same | ⟨names, _, -, -, rfl, -⟩
    · exact .inl same
    · exact absurd (inside.trans (List.suffix_append _ _)) isOutside
  directory := sows.keepsDirectory

theorem leads (sown : start.Sows place shows after) (fallow : start.IsFallow path place shows) :
    after.tree.Leads after.current path place := by
  rw [Tree.Leads, sown.current]
  refine Tree.Reaches.kept fallow.leads fun passed entry passable found => ?_
  have builds := sown.builds passed
  rw [found] at builds
  exact builds.keeps passable

theorem isPlainBelow (sown : start.Sows place shows after)
    (fallow : start.IsFallow path place shows) (names : List String) :
    after.tree.IsPlainBelow place names := by
  intro front _ notNil target isLink
  obtain ⟨proper, isShown⟩ := sown.shown fallow notNil isLink
  exact fallow.noLink front proper target isShown

/-- A file is sown where one with these bytes and this mode is shown. -/
theorem fill (sown : start.Sows place shows before) (fallow : start.IsFallow path place shows)
    (notNil : names ≠ []) (proper : ∀ name ∈ names, Path.IsProper name) {bytes : ByteArray}
    {executable : Bool} (isShown : shows names = some (.file 0 bytes executable))
    (done : (openForWriting (Path.joinAll path names) true executable >>= fun handle =>
      storeBytes handle bytes) before = (.ok (), after)) :
    before.Sows place shows after ∧
      ∃ entry, after.tree.lookup (names.reverse ++ place) = some entry := by
  obtain ⟨target, found⟩ : ∃ target,
      before.tree.find before.current .newFile (Path.joinAll path names) = .ok target := by
    obtain ⟨-, ⟨-, device⟩ | ⟨target, _, found, -⟩⟩ := fill_done done
    · obtain ⟨_, _, found⟩ := device rfl
      exact ⟨_, found⟩
    · exact ⟨target, found⟩
  obtain ⟨atPlace, -⟩ := (sown.leads fallow).find_below notNil proper
    (sown.isPlainBelow fallow names) found
  have alike (entry : Entry) (there : target.entryAt? = some entry) :
      ∃ identity content, entry = .file identity content executable := by
    rw [← Tree.find_ends found, atPlace] at there
    have same := (sown.shown fallow notNil there).2.symm.trans isShown
    obtain ⟨identity, rfl⟩ := Entry.eq_file_of_likeness (Option.some.inj same)
    exact ⟨identity, bytes, rfl⟩
  obtain ⟨current, rewritten, identity, there⟩ := fill_at done found alike
  refine ⟨⟨current, rewritten.places, fun other => ?_⟩, _, atPlace ▸ there⟩
  by_cases here : other = target.place
  · subst here
    exact .inr ⟨names, _, notNil, proper, atPlace, there, isShown⟩
  · exact .inl (rewritten.same other here)

theorem makeDirectories (sown : start.Sows place shows before)
    (fallow : start.IsFallow path place shows) {name : String}
    (proper : ∀ other ∈ names ++ [name], Path.IsProper other)
    (holder : before.tree.lookup (names.reverse ++ place) = some .directory)
    (isShown : shows (names ++ [name]) = some .directory)
    (done : FileSystem.makeDirectories (Path.joinAll path (names ++ [name])) before =
      (.ok (), after)) :
    before.Sows place shows after ∧
      after.tree.lookup ((names ++ [name]).reverse ++ place) = some .directory := by
  have sameStart := Place.origin_joinAll proper before.current path
  have reaches : before.tree.Reaches
      (before.current.origin (Path.joinAll path (names ++ [name]))) (Path.names path) place :=
    sameStart ▸ sown.leads fallow
  have adds := (AddsDirectories.makeDirectories _).states done
  obtain ⟨-, -, there, places⟩ := AddsDirectories.makeDirectories_below
    (Path.names_joinAll proper path) (by simp) reaches proper
    (sown.isPlainBelow fallow _) done
  refine ⟨⟨adds.current, adds.builds.places, fun other => ?_⟩, there⟩
  rcases places other with same | ⟨free, made, part, isPrefix, notNil, rfl⟩
  · exact .inl same
  · -- All directories around the new one are there already.
    rcases List.prefix_concat_iff.mp isPrefix with rfl | isPrefix
    · exact .inr ⟨_, _, notNil, proper, rfl, made, isShown⟩
    · have inside := spelled_suffix isPrefix place
      by_cases same : part.reverse ++ place = names.reverse ++ place
      · cases (same ▸ free).symm.trans holder
      · cases free.symm.trans (Tree.lookup_of_suffix holder inside same)

end Disk.Sows

section Sights

variable {disk : Disk} {source name : String} {names inner : List String} {place : Place}

theorem Disk.seen?_append (disk : Disk) (source : String) (names inner : List String) :
    disk.seen? source (names ++ inner) = disk.seen? (Path.joinAll source names) inner := by
  rw [seen?, Path.joinAll_append, seen?]

theorem Disk.seen?_of_entryAt? {entry : Entry}
    (found : disk.entryAt? (Path.joinAll source names) = .ok entry) :
    disk.seen? source names = some entry.likeness := by
  rw [seen?, found]
  rfl

theorem Disk.find_of_seen? {seen : Entry} (isSeen : disk.seen? source names = some seen) :
    ∃ place entry, disk.find (Path.joinAll source names) = .ok (.present place entry) ∧
      entry.likeness = seen := by
  rw [seen?, entryAt?] at isSeen
  cases found : disk.find (Path.joinAll source names) with
  | error cause => simp [found, Except.toOption] at isSeen
  | ok target =>
      cases target with
      | absent place slash => simp [found, Except.toOption] at isSeen
      | present place entry =>
          exact ⟨place, entry, rfl, by simpa [found, Except.toOption] using isSeen⟩

theorem Disk.seen?_ne_link (target : String) : disk.seen? source names ≠ some (.link target) := by
  intro isSeen
  obtain ⟨place, entry, found, alike⟩ := find_of_seen? isSeen
  exact Tree.ne_link_of_find found target (Entry.eq_link_of_likeness alike)

/-- Something is seen behind a path only when the path leads to a directory, and then the
first name on the way is in this directory. -/
theorem Disk.listed_of_seen? (proper : ∀ other ∈ name :: inner, Path.IsProper other)
    {seen : Entry} (isSeen : disk.seen? source (name :: inner) = some seen) :
    ∃ place, disk.tree.Leads disk.current source place ∧ name ∈ disk.tree.names place := by
  obtain ⟨_, _, found, -⟩ := find_of_seen? isSeen
  obtain ⟨place, leads⟩ := Tree.leads_of_find_joinAll proper found
  obtain ⟨left, walks⟩ := leads.find_joinAll proper (Tree.find_done found).1
  refine ⟨place, leads, Tree.mem_names_iff.mpr ?_⟩
  have walked := (walks .content).symm.trans found
  obtain ⟨plain, -⟩ := isPlainName_of_walk (proper name List.mem_cons_self) walked
  cases there : disk.tree.lookup (name :: place) with
  | some entry => exact ⟨entry, rfl⟩
  | none => exact absurd walked (walk_missing plain there _ _)

end Sights

end FileSystem

namespace Workspace

variable {source path : String} {place : Place} {shows : List String → Option Entry}
variable {start before after : Disk} {names : List String}

/-- Whatever has been sown below a place, what is seen behind the path is what is shown. -/
def IsSteady (source : String) (place : Place) (shows : List String → Option Entry)
    (start : Disk) : Prop :=
  ∀ disk, start.Sows place shows disk →
    ∀ names, (∀ name ∈ names, Path.IsProper name) → disk.seen? source names = shows names

def IsSown (place : Place) (shows : List String → Option Entry) (names : List String)
    (disk : Disk) : Prop :=
  ∀ inner, (∀ name ∈ inner, Path.IsProper name) → shows (names ++ inner) ≠ none →
    ∃ entry, disk.tree.lookup ((names ++ inner).reverse ++ place) = some entry

theorem IsSown.stays (isSown : IsSown place shows names before)
    (sows : before.Sows place shows after) : IsSown place shows names after :=
  fun inner proper isShown => sows.stays (isSown inner proper isShown)

theorem properAll {inner : List String} (proper : ∀ name ∈ names, Path.IsProper name)
    (properInner : ∀ name ∈ inner, Path.IsProper name) :
    ∀ name ∈ names ++ inner, Path.IsProper name := by
  intro name isMember
  rcases List.mem_append.mp isMember with isMember | isMember
  · exact proper name isMember
  · exact properInner name isMember

theorem isSown_of_file (steady : IsSteady source place shows start)
    (sown : start.Sows place shows before) (proper : ∀ name ∈ names, Path.IsProper name)
    {entry : Entry} (isEntry : before.entryAt? (Path.joinAll source names) = .ok entry)
    (notDirectory : entry ≠ .directory) {disk : Disk}
    (there : ∃ entry, disk.tree.lookup (names.reverse ++ place) = some entry) :
    IsSown place shows names disk := by
  intro inner properInner isShown
  cases inner with
  | nil => simpa using there
  | cons name inner =>
      rw [← steady before sown _ (properAll proper properInner), Disk.seen?_append] at isShown
      obtain ⟨seen, isSeen⟩ := Option.ne_none_iff_exists'.mp isShown
      obtain ⟨holder, leads, -⟩ := Disk.listed_of_seen? properInner isSeen
      obtain ⟨there, found⟩ := Disk.find_of_entryAt? isEntry
      have again := leads.find (Tree.find_done found).1
      cases found.symm.trans again
      exact absurd rfl notDirectory

/-- A name of a directory that is copied stands for a directory or for a file. -/
theorem copyInside_done (fallow : start.IsFallow path place shows)
    (steady : IsSteady source place shows start) {levels : Nat} {name : String}
    (deeper : ∀ {disk next}, start.Sows place shows disk →
      disk.tree.lookup ((names ++ [name]).reverse ++ place) = some .directory →
      copyTree levels (Path.joinAll source (names ++ [name])) (Path.joinAll path (names ++ [name]))
        disk = (.ok (), next) →
      disk.Sows place shows next ∧ IsSown place shows (names ++ [name]) next)
    (sown : start.Sows place shows before)
    (proper : ∀ other ∈ names ++ [name], Path.IsProper other)
    (here : before.tree.lookup (names.reverse ++ place) = some .directory)
    (done : (do
      let inner := Path.joinAll source (names ++ [name])
      let copy := Path.joinAll path (names ++ [name])
      if ← Task.ask (·.isDirectory inner) then
        (makeDirectories copy).reportedFor copy
        copyTree levels inner copy
      else
        (copyFile inner copy).reportedFor inner : Task Unit) before = (.ok (), after)) :
    before.Sows place shows after ∧ IsSown place shows (names ++ [name]) after := by
  obtain ⟨isDirectory, _, asked, done⟩ := Effect.bind_ok done
  cases asked
  split at done
  next isDirectory =>
    have isShown : shows (names ++ [name]) = some .directory := by
      rw [← steady _ sown _ proper]
      exact Disk.seen?_of_entryAt? (Disk.entryAt?_of_isDirectory isDirectory)
    obtain ⟨⟨⟩, between, made, copied⟩ := Effect.bind_ok done
    obtain ⟨sows, there⟩ :=
      sown.makeDirectories fallow proper here isShown (reportedFor_ok made)
    obtain ⟨sowsMore, isSown⟩ := deeper (sown.trans sows) there copied
    exact ⟨sows.trans sowsMore, isSown⟩
  next =>
    obtain ⟨identity, content, executable, isFile, filled⟩ := copyFile_done (reportedFor_ok done)
    have isShown : shows (names ++ [name]) = some (.file 0 content executable) := by
      rw [← steady _ sown _ proper]
      exact Disk.seen?_of_entryAt? isFile
    have begins := Disk.Sows.nextFault place shows before
    obtain ⟨sows, there⟩ :=
      (sown.trans begins).fill fallow (by simp) proper isShown filled
    exact ⟨begins.trans sows, isSown_of_file steady sown proper isFile (by simp) there⟩

/-- What has been copied from a directory is all that is seen in it. -/
theorem copyTree_done (fallow : start.IsFallow path place shows)
    (steady : IsSteady source place shows start)
    (named : ∀ disk, start.Sows place shows disk → disk.tree.IsWellNamed)
    {levels : Nat} (sown : start.Sows place shows before)
    (proper : ∀ name ∈ names, Path.IsProper name)
    (here : before.tree.lookup (names.reverse ++ place) = some .directory)
    (done : copyTree levels (Path.joinAll source names) (Path.joinAll path names) before =
      (.ok (), after)) :
    before.Sows place shows after ∧ IsSown place shows names after := by
  induction levels generalizing names before after with
  | zero => cases done
  | succ levels ih =>
      obtain ⟨listed, begun, read, done⟩ := Effect.bind_ok done
      obtain ⟨holder, found, rfl, rfl⟩ := readDirectory_done (reportedFor_ok read)
      have begins := Disk.Sows.nextFault place shows before
      have properWith {name : String} (isMember : name ∈ before.tree.names holder) :
          ∀ other ∈ names ++ [name], Path.IsProper other := by
        obtain ⟨entry, there⟩ := Tree.mem_names_iff.mp isMember
        have last : Path.IsProper name :=
          named before sown _ entry there name List.mem_cons_self
        exact properAll proper (by simpa using last)
      simp only [← Path.joinAll_concat] at done
      have loop : before.nextFault.2.Sows place shows after ∧
          ∀ name ∈ before.tree.names holder, IsSown place shows (names ++ [name]) after := by
        refine Effect.forM_ok (.refl place shows) .trans ?_ ?_ done
        · exact fun name first second sows isSown => isSown.stays sows
        · intro name isMember disk next reached copied
          have soFar := begins.trans reached
          exact copyInside_done fallow steady (fun sown => ih sown (properWith isMember))
            (sown.trans soFar) (properWith isMember) (soFar.keepsDirectory here) copied
      obtain ⟨sows, areSown⟩ := loop
      have whole := begins.trans sows
      refine ⟨whole, fun inner properInner isShown => ?_⟩
      cases inner with
      | nil => exact ⟨.directory, by simpa using whole.keepsDirectory here⟩
      | cons name inner =>
          have isSeen := isShown
          rw [← steady before sown _ (properAll proper properInner), Disk.seen?_append] at isSeen
          obtain ⟨seen, isSeen⟩ := Option.ne_none_iff_exists'.mp isSeen
          obtain ⟨other, leads, isMember⟩ := Disk.listed_of_seen? properInner isSeen
          obtain rfl : holder = other := (Tree.leads_of_find found).unique leads
          have rest : ∀ other ∈ inner, Path.IsProper other :=
            fun other isMember => properInner other (List.mem_cons_of_mem _ isMember)
          simpa using areSown name isMember inner rest (by simpa using isShown)

end Workspace

end SnippetSandbox
