import SnippetSandbox.Proofs.FileSystem.Disk
import SnippetSandbox.Proofs.FileSystem.Descent

/-!
# What making directories and writing files can change

Making a directory puts directories where nothing was, all of them on the way along the
path.  Writing a file puts a file where nothing or a file was.  Neither takes away anything
that a walk can pass, so every path that led somewhere still leads to the same place.
-/

namespace SnippetSandbox.FileSystem

/-- Where nothing was, the second disk has new directories, which are on the way along
the path; everything else is the same. -/
structure Disk.AddsDirectories (path : String) (before after : Disk) : Prop where
  current : after.current = before.current
  places : ∀ place, after.tree.lookup place = before.tree.lookup place ∨
    before.tree.lookup place = none ∧ after.tree.lookup place = some .directory ∧
      ∃ front, front <+: Path.names path ∧
        after.tree.Reaches (before.current.origin path) front place

namespace Disk.AddsDirectories

variable {path : String} {before after : Disk}

theorem refl (path : String) (disk : Disk) : disk.AddsDirectories path disk :=
  ⟨rfl, fun _ => .inl rfl⟩

theorem keeps (adds : before.AddsDirectories path after) {place : Place} {entry : Entry}
    (found : before.tree.lookup place = some entry) :
    after.tree.lookup place = some entry := by
  rcases adds.places place with same | ⟨free, -⟩
  · exact same.trans found
  · cases free.symm.trans found

theorem trans {first second third : Disk} (one : first.AddsDirectories path second)
    (two : second.AddsDirectories path third) : first.AddsDirectories path third where
  current := two.current.trans one.current
  places place := by
    rcases two.places place with same | ⟨free, made, front, isPrefix, reaches⟩
    · rcases one.places place with sameBefore | ⟨free, made, front, isPrefix, reaches⟩
      · exact .inl (same.trans sameBefore)
      · exact .inr ⟨free, same.trans made, front, isPrefix,
          reaches.kept fun _ _ _ found => two.keeps found⟩
    · rcases one.places place with sameBefore | ⟨_, madeBefore, -⟩
      · exact .inr ⟨sameBefore.symm.trans free, made, front, isPrefix, one.current ▸ reaches⟩
      · cases free.symm.trans madeBefore

theorem nextFault (path : String) (disk : Disk) : disk.AddsDirectories path disk.nextFault.2 :=
  ⟨disk.nextFault_current, fun _ => .inl (by rw [disk.nextFault_tree])⟩

/-- What is made on the way along a path is on the way along a longer one. -/
theorem of_prefix {longer : String} (sameStart : Path.isAbsolute path = Path.isAbsolute longer)
    (isFront : Path.names path <+: Path.names longer) (adds : before.AddsDirectories path after) :
    before.AddsDirectories longer after where
  current := adds.current
  places place := by
    rcases adds.places place with same | ⟨free, made, front, isPrefix, reaches⟩
    · exact .inl same
    · rw [Place.origin, sameStart] at reaches
      exact .inr ⟨free, made, front, isPrefix.trans isFront, reaches⟩

theorem up {around : String} (isParent : Path.parent? path = some around)
    (adds : before.AddsDirectories around after) : before.AddsDirectories path after := by
  obtain ⟨sameStart, fewer⟩ := Path.names_parent isParent
  exact adds.of_prefix sameStart (fewer ▸ List.dropLast_prefix _)

/-- A path leads to the directory that was made for it, and there is nothing in it. -/
theorem leads_of_makeDirectory (made : makeDirectory path before = (.ok (), after)) :
    Path.IsUsable path ∧ before.AddsDirectories path after ∧
      ∃ place, after.tree.Leads after.current path place ∧
        ∀ name, after.tree.lookup (name :: place) = none := by
  rcases makeDirectory_cases made with ⟨⟨_, ⟨⟩⟩, -⟩ | ⟨-, place, slash, found, current, tree⟩
  obtain ⟨usable, directory, walked⟩ := Tree.find_done found
  have free : before.tree.lookup place = none := Tree.find_ends found
  obtain ⟨name, around, rfl, inside⟩ := Tree.find_inside found (by simp [Target.entryAt?])
  have places (other : Place) : after.tree.lookup other = before.tree.lookup other ∨
      other = name :: around ∧ after.tree.lookup other = some .directory := by
    rw [tree, before.tree.lookup_put_eq _ inside]
    split
    next same => exact .inr ⟨same, rfl⟩
    next different =>
      split
      next below =>
        exact .inl (Tree.lookup_below (by simp [free]) below (Ne.symm different)).symm
      next => exact .inl rfl
  have there : after.tree.lookup (name :: around) = some .directory := by
    rw [tree]
    exact Tree.lookup_put_self _ _ inside
  have keeps (passed : Place) (entry : Entry) (_ : entry.isPassable = true)
      (shown : before.tree.lookup passed = some entry) :
      after.tree.lookup passed = some entry := by
    rcases places passed with same | ⟨rfl, -⟩
    · exact same.trans shown
    · cases free.symm.trans shown
  obtain ⟨left, way⟩ := way_of_walk_absent walked there keeps
  have reaches : after.tree.Reaches (before.current.origin path) (Path.names path)
      (name :: around) :=
    ⟨keeps _ _ rfl directory, left, Way.names_iff.mpr way⟩
  refine ⟨usable, ⟨current, fun other => ?_⟩, name :: around, current ▸ reaches, fun inner => ?_⟩
  · rcases places other with same | ⟨rfl, made⟩
    · exact .inl same
    · exact .inr ⟨free, made, _, List.prefix_refl _, reaches⟩
  · rw [tree, before.tree.lookup_put_eq _ inside, if_neg (by simp), if_pos (List.suffix_cons _ _)]

theorem makeDirectory (path : String) :
    Effect.Relates (Disk.AddsDirectories path) (FileSystem.makeDirectory path) := by
  intro before
  rcases done : FileSystem.makeDirectory path before with ⟨cause | ⟨⟩, after⟩
  · rcases makeDirectory_cases done with ⟨-, rfl⟩ | ⟨⟨⟩, -⟩
    exact nextFault path before
  · exact (leads_of_makeDirectory done).2.1

theorem makeDirectoriesUp (levels : Nat) (path : String) :
    Effect.Relates (Disk.AddsDirectories path) (FileSystem.makeDirectoriesUp levels path) :=
  relates_makeDirectoriesUp refl (fun _ => trans) makeDirectory up levels path

theorem makeDirectories (path : String) :
    Effect.Relates (Disk.AddsDirectories path) (FileSystem.makeDirectories path) :=
  makeDirectoriesUp _ path

/-- Directories that have been made are there, and their path leads to the last of them. -/
theorem leads_of_makeDirectories (some : path ≠ "")
    (made : FileSystem.makeDirectories path before = (.ok (), after)) :
    Path.IsUsable path ∧ ∃ place, after.tree.Leads after.current path place := by
  rcases makeDirectories_done some made with ⟨between, made⟩ | isDirectory
  · obtain ⟨usable, -, place, leads, -⟩ := leads_of_makeDirectory made
    exact ⟨usable, place, leads⟩
  · rw [Disk.isDirectory, Disk.entryAt?] at isDirectory
    cases found : after.find path with
    | error cause => simp [found] at isDirectory
    | ok target =>
        cases target with
        | absent place slash => simp [found] at isDirectory
        | present place entry =>
            cases entry with
            | directory => exact ⟨(Tree.find_done found).1, place, Tree.leads_of_find found⟩
            | _ => simp [found] at isDirectory

theorem isPlainBelow (adds : before.AddsDirectories path after) {here : Place}
    {names : List String} (plain : before.tree.IsPlainBelow here names) :
    after.tree.IsPlainBelow here names := by
  intro front isPrefix some target isLink
  rcases adds.places (front.reverse ++ here) with same | ⟨-, made, -⟩
  · exact plain front isPrefix some target (same.symm.trans isLink)
  · cases made.symm.trans isLink

/-- Where a path has names behind those that reach a directory, and no link is on the way
down along them, these names spell the places of all new directories. -/
theorem spelled_below {front names : List String} {ground : Place}
    (adds : before.AddsDirectories path after) (spelled : Path.names path = front ++ names)
    (reaches : before.tree.Reaches (before.current.origin path) front ground)
    (proper : ∀ name ∈ names, Path.IsProper name) (plain : before.tree.IsPlainBelow ground names)
    (place : Place) :
    after.tree.lookup place = before.tree.lookup place ∨
      before.tree.lookup place = none ∧ after.tree.lookup place = some .directory ∧
        ∃ part, part <+: names ∧ part ≠ [] ∧ place = part.reverse ++ ground := by
  have reachesAfter : after.tree.Reaches (before.current.origin path) front ground :=
    reaches.kept fun _ _ _ found => adds.keeps found
  have plainAfter := adds.isPlainBelow plain
  rcases adds.places place with same | ⟨free, isMade, shown, ⟨rest, whole⟩, reachesNow⟩
  · exact .inl same
  · rw [spelled] at whole
    rcases List.append_eq_append_iff.mp whole with ⟨behind, rfl, -⟩ | ⟨part, rfl, rfl⟩
    · -- A directory in front of the ground was there before.
      obtain ⟨directory, _, way⟩ := reaches
      obtain ⟨between, middle, one, -⟩ := way.split
      have reached : before.tree.Reaches (before.current.origin path) shown middle :=
        ⟨directory, between, one⟩
      obtain rfl := reachesNow.unique (reached.kept fun _ _ _ found => adds.keeps found)
      cases free.symm.trans reached.lookup
    · have isPart : part <+: part ++ rest := List.prefix_append _ _
      obtain ⟨rfl, -⟩ := reachesAfter.down
        (fun name isMember => proper name (isPart.subset isMember))
        (fun shorter isShorter => plainAfter shorter (isShorter.trans isPart)) reachesNow
      refine .inr ⟨free, isMade, part, isPart, ?_, rfl⟩
      rintro rfl
      cases free.symm.trans reaches.lookup

/-- Nothing is made along a path all of whose names reach directories already. -/
theorem same_of_reaches {names : List String} {ground : Place}
    (adds : before.AddsDirectories path after) (isPrefix : Path.names path <+: names)
    (reaches : before.tree.Reaches (before.current.origin path) names ground) (place : Place) :
    after.tree.lookup place = before.tree.lookup place := by
  obtain ⟨rest, rfl⟩ := isPrefix
  obtain ⟨directory, _, way⟩ := reaches
  obtain ⟨between, middle, one, -⟩ := way.split
  have here : before.tree.Reaches (before.current.origin path) (Path.names path) middle :=
    ⟨directory, between, one⟩
  rcases adds.spelled_below (List.append_nil _).symm here nofun
    (fun front isPrefix notNil => absurd (List.prefix_nil.mp isPrefix) notNil) place with
    same | ⟨-, -, part, isPrefix, notNil, -⟩
  · exact same
  · exact absurd (List.prefix_nil.mp isPrefix) notNil

/-- Where a path has names behind those that reach a directory, and no link is on the way
down along them, these names spell the places of all the directories that are made. -/
theorem makeDirectories_below {front names : List String} {ground : Place}
    (spelled : Path.names path = front ++ names) (some : names ≠ [])
    (reaches : before.tree.Reaches (before.current.origin path) front ground)
    (proper : ∀ name ∈ names, Path.IsProper name) (plain : before.tree.IsPlainBelow ground names)
    (made : FileSystem.makeDirectories path before = (.ok (), after)) :
    Path.IsUsable path ∧ (∀ name ∈ names, IsPlainName name) ∧
      after.tree.lookup (names.reverse ++ ground) = Option.some .directory ∧
      ∀ place, after.tree.lookup place = before.tree.lookup place ∨
        before.tree.lookup place = none ∧ after.tree.lookup place = Option.some .directory ∧
          ∃ part, part <+: names ∧ part ≠ [] ∧ place = part.reverse ++ ground := by
  have adds := (makeDirectories path).states made
  have notEmpty : path ≠ "" := by
    rintro rfl
    exact some (List.append_eq_nil_iff.mp spelled.symm).2
  have reachesAfter : after.tree.Reaches (before.current.origin path) front ground :=
    reaches.kept fun _ _ _ found => adds.keeps found
  obtain ⟨usable, place, leads⟩ := leads_of_makeDirectories notEmpty made
  rw [Tree.Leads, adds.current, spelled] at leads
  obtain ⟨rfl, plainNames⟩ := reachesAfter.down proper (adds.isPlainBelow plain) leads
  exact ⟨usable, plainNames, leads.lookup, adds.spelled_below spelled reaches proper plain⟩

/-- The paths that are tried to make a directory with a name behind a path: this one, and the
paths to directories around it. -/
def IsTried (base name path : String) : Prop :=
  path = Path.join base name ∨
    Path.names path <+: Path.names base ∧ Path.isAbsolute path = Path.isAbsolute base

/-- Where the first path leads to a directory, trying the other one leaves it there and changes
nothing but the entry with the name in it. -/
def ChangesName (base name : String) (here : Place) (path : String) (before after : Disk) : Prop :=
  IsTried base name path → before.tree.Leads before.current base here →
    after.tree.Leads after.current base here ∧
      ∀ other, other ≠ name :: here → after.tree.lookup other = before.tree.lookup other

section Names

variable {base name path around : String} {here : Place} {first second third : Disk}

theorem IsTried.parent (proper : Path.IsProper name) (isTried : IsTried base name path)
    (isParent : Path.parent? path = Option.some around) : IsTried base name around := by
  refine .inr ?_
  rcases isTried with rfl | ⟨isPrefix, same⟩
  · obtain ⟨sameStart, sameNames⟩ := Path.names_parent_join proper isParent
    exact ⟨sameNames ▸ List.prefix_refl _, sameStart⟩
  · obtain ⟨sameStart, fewer⟩ := Path.names_parent isParent
    rw [fewer, sameStart]
    exact ⟨(List.dropLast_prefix _).trans isPrefix, same⟩

theorem ChangesName.refl : ChangesName base name here path first first :=
  fun _ leads => ⟨leads, fun _ _ => rfl⟩

theorem ChangesName.trans (one : ChangesName base name here path first second)
    (two : ChangesName base name here path second third) :
    ChangesName base name here path first third := by
  intro isTried leads
  obtain ⟨leadsNext, same⟩ := one isTried leads
  obtain ⟨leadsLast, sameLater⟩ := two isTried leadsNext
  exact ⟨leadsLast, fun other different =>
    (sameLater other different).trans (same other different)⟩

theorem ChangesName.makeDirectory (proper : Path.IsProper name) (path : String) :
    Effect.Relates (ChangesName base name here path) (FileSystem.makeDirectory path) := by
  intro first isTried leads
  have adds := AddsDirectories.makeDirectory path first
  refine ⟨?_, fun other different => ?_⟩
  · rw [Tree.Leads, adds.current]
    exact Tree.Reaches.kept leads fun _ _ _ found => adds.keeps found
  rcases isTried with rfl | ⟨isPrefix, sameStart⟩
  · rcases done : FileSystem.makeDirectory (Path.join base name) first with ⟨answer, second⟩
    rcases makeDirectory_cases done with ⟨-, rfl⟩ | ⟨-, place, slash, found, -, tree⟩
    · rw [first.nextFault_tree]
    · have here := leads.find_name proper (.inr rfl) found
      have free : first.tree.lookup place = none := Tree.find_ends found
      change place = _ at here
      subst here
      have holder : first.tree.lookup here = Option.some .directory := Tree.find_around found
      rw [tree, first.tree.lookup_put_eq _ holder, if_neg different]
      split
      next below => exact (Tree.lookup_below (by simp [free]) below (Ne.symm different)).symm
      next => rfl
  · rw [Tree.Leads, Place.origin, ← sameStart] at leads
    exact adds.same_of_reaches isPrefix leads other

/-- Behind a path that leads to a directory, no other directory is made than the one with the
name that stands there, whether it succeeds or not. -/
theorem makeDirectories_name (leads : before.tree.Leads before.current base here)
    (proper : Path.IsProper name) {answer : Except Cause Unit}
    (done : FileSystem.makeDirectories (Path.join base name) before = (answer, after))
    (other : Place) (different : other ≠ name :: here) :
    after.tree.lookup other = before.tree.lookup other := by
  have changes : Effect.Relates (ChangesName base name here (Path.join base name))
      (FileSystem.makeDirectories (Path.join base name)) :=
    relates_makeDirectoriesUp (fun _ _ => .refl) (fun _ _ _ _ => .trans)
      (ChangesName.makeDirectory proper)
      (fun isParent up isTried => up (isTried.parent proper isParent)) _ _
  exact (changes.states done (.inl rfl) leads).2 other different

end Names

end Disk.AddsDirectories

/-- What can become of an entry by making directories and writing files. -/
inductive Entry.Builds : Option Entry → Option Entry → Prop
  | same {found : Option Entry} : Builds found found
  | made : Builds none (some .directory)
  | written {found : Option Entry} {identity : Nat} {content : ByteArray} {executable : Bool}
      (writable : IsWritable found) : Builds found (some (.file identity content executable))

namespace Entry.Builds

variable {first second third : Option Entry}

theorem trans (one : Builds first second) (two : Builds second third) : Builds first third := by
  cases two with
  | same => exact one
  | made =>
      cases one
      exact .made
  | written writable =>
      cases one with
      | same => exact .written writable
      | made => exact absurd rfl writable.ne_directory
      | written writableBefore => exact .written writableBefore

theorem keeps {entry : Entry} (builds : Builds (some entry) second)
    (passable : entry.isPassable = true) : second = some entry := by
  cases builds with
  | same => rfl
  | written writable =>
      obtain ⟨_, _, _, rfl⟩ := writable _ rfl
      cases passable

theorem ne_link {target : String} (builds : Builds first second)
    (notLink : first ≠ some (.link target)) : second ≠ some (.link target) := by
  cases builds with
  | same => exact notLink
  | made => simp
  | written => simp

end Entry.Builds

/-- At each place of the second disk is what can become of the entry of the first. -/
structure Disk.Builds (before after : Disk) : Prop where
  current : after.current = before.current
  places : ∀ place, Entry.Builds (before.tree.lookup place) (after.tree.lookup place)

namespace Disk.Builds

variable {before after : Disk} {path : String}

theorem refl (disk : Disk) : disk.Builds disk :=
  ⟨rfl, fun _ => .same⟩

theorem trans {first second third : Disk} (one : first.Builds second)
    (two : second.Builds third) : first.Builds third :=
  ⟨two.current.trans one.current, fun place => (one.places place).trans (two.places place)⟩

theorem keeps (builds : before.Builds after) (place : Place) (entry : Entry)
    (passable : entry.isPassable = true) (found : before.tree.lookup place = some entry) :
    after.tree.lookup place = some entry := by
  have stays := builds.places place
  rw [found] at stays
  exact stays.keeps passable

theorem nextFault (disk : Disk) : disk.Builds disk.nextFault.2 :=
  ⟨disk.nextFault_current, fun _ => by rw [disk.nextFault_tree]; exact .same⟩

/-- A path that led to an entry leads to the same place, to what is there now. -/
theorem find (builds : before.Builds after) {place : Place} {entry : Entry}
    (found : before.find path = .ok (.present place entry)) :
    ∃ later, after.find path = .ok (.present place later) ∧
      Entry.Builds (some entry) (some later) := by
  have there : before.tree.lookup place = some entry := Tree.find_ends found
  have notLink (target : String) : some entry ≠ some (.link target) := by
    simpa using Tree.ne_link_of_find found target
  have becomes := builds.places place
  rw [there] at becomes
  cases shown : after.tree.lookup place with
  | none =>
      rw [shown] at becomes
      cases becomes
  | some later =>
      rw [shown] at becomes
      refine ⟨later, ?_, becomes⟩
      rw [Disk.find, builds.current]
      refine Tree.find_kept builds.keeps found shown ?_
      rintro target rfl
      exact becomes.ne_link (notLink target) rfl

end Disk.Builds

theorem Disk.AddsDirectories.builds {before after : Disk} {path : String}
    (adds : before.AddsDirectories path after) : before.Builds after where
  current := adds.current
  places place := by
    rcases adds.places place with same | ⟨free, made, -⟩
    · rw [same]
      exact .same
    · rw [free, made]
      exact .made

theorem Tree.Rewritten.places {before after : Tree} {place : Place} {content : ByteArray}
    (rewritten : before.Rewritten after place content) (other : Place) :
    Entry.Builds (before.lookup other) (after.lookup other) := by
  by_cases same : other = place
  · obtain ⟨identity, executable, there⟩ := rewritten.there
    rw [same, there]
    exact .written rewritten.writable
  · rw [rewritten.same other same]
    exact .same

/-- Writing a text changes at most a file, whether it fails or not. -/
theorem Disk.Builds.writeText (path text : String) :
    Effect.Relates Disk.Builds (FileSystem.writeText path text) := by
  intro before
  rcases done : FileSystem.writeText path text before with ⟨answer, after⟩
  obtain ⟨current, ⟨same, -⟩ | ⟨_, _, -, rewritten, -⟩⟩ := fill_done done
  · exact ⟨current, fun place => by rw [same]; exact .same⟩
  · exact ⟨current, rewritten.places⟩

theorem Disk.Builds.makeDirectories (path : String) :
    Effect.Relates Disk.Builds (FileSystem.makeDirectories path) :=
  fun before => (AddsDirectories.makeDirectories path before).builds

end SnippetSandbox.FileSystem
