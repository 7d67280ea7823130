import SnippetSandbox.Proofs.FileSystem.Change

/-!
# What nothing refuses

Where no fault strikes, an operation is refused only for what the files themselves demand: the
path must be short enough, and what it leads to must be of the right kind.  Behind the path of a
directory this is decided by the one entry with the name that stands there.  Directories are made
along any path on which there are only directories, as far as something is there.
-/

namespace SnippetSandbox.FileSystem

section Names

variable {tree : Tree} {links : Nat} {here ground current : Place} {base path name : String}
variable {entry : Entry} {front names : List String}

/-- Where a path leads to a directory, its last name stands for something. -/
theorem walk_name_of_content {segments : List String} {place : Place} {entry : Entry}
    (found : walk tree .content links here segments = .ok (.present place entry)) :
    ∃ target, walk tree .name links here segments = .ok target := by
  fun_induction walk tree .content links here segments with
  | case1 links here there isEntry =>
      exact ⟨_, walk_here isEntry⟩
  | case3 _ _ _ _ isVoid ih =>
      rw [walk_void isVoid]
      exact ih found
  | case4 _ _ _ _ ih =>
      rw [walk_up]
      exact ih found
  | case11 _ _ rest notVoid notUp _ fits _ isLink _ _ ih =>
      rw [walk_plain ⟨notVoid, notUp, fits⟩ (by simp), isLink]
      by_cases blank : rest.all (· = "") = true
      · exact ⟨_, if_pos (.inr ⟨rfl, blank⟩)⟩
      · simpa [blank] using ih found
  | case13 _ _ _ rest notVoid notUp _ fits isDirectory _ ih =>
      rw [walk_plain ⟨notVoid, notUp, fits⟩ (by simp), isDirectory]
      by_cases blank : rest.all (· = "") = true
      · exact ⟨_, if_pos ⟨rfl, blank⟩⟩
      · simpa [blank] using ih found
  | case14 _ _ _ _ notVoid notUp _ fits _ notLink notDirectory isEntry ends =>
      obtain rfl | ⟨⟨⟩, -⟩ := ends
      exact ⟨_, walk_entry ⟨notVoid, notUp, fits⟩ isEntry (.inl notLink)⟩
  | case9 _ _ _ _ _ _ _ _ _ _ stays => simp at stays
  | case12 _ _ _ _ _ _ _ _ _ stays => simp at stays
  | case2 | case5 | case6 | case7 | case8 | case10 | case15 => cases found

namespace Tree

/-- The entry with a name is looked up in the directory to which the path before it leads. -/
theorem Leads.find_last (leads : tree.Leads current base here) (proper : Path.IsProper name)
    (usable : Path.IsUsable (Path.join base name)) :
    ∃ left, ∀ purpose, tree.find current purpose (Path.join base name) =
      walk tree purpose left here [name] := by
  have properNames : ∀ other ∈ [name], Path.IsProper other := by simpa using proper
  obtain ⟨left, walks⟩ := leads.find_joinAll properNames usable
  exact ⟨left, walks⟩

/-- As far as something is there, only directories are on the way down along some names. -/
def IsOpenBelow (tree : Tree) (here : Place) (names : List String) : Prop :=
  ∀ front, front <+: names → tree.lookup (front.reverse ++ here) = none ∨
    tree.lookup (front.reverse ++ here) = some .directory

namespace IsOpenBelow

theorem isPlainBelow (isOpen : tree.IsOpenBelow here names) : tree.IsPlainBelow here names := by
  intro front isPrefix _ target isLink
  rcases isOpen front isPrefix with free | directory
  · cases free.symm.trans isLink
  · cases directory.symm.trans isLink

theorem tail (isOpen : tree.IsOpenBelow here (name :: names)) :
    tree.IsOpenBelow (name :: here) names := by
  intro front isPrefix
  simpa using isOpen (name :: front) (by simpa using isPrefix)

/-- Where names lead nowhere, one of them is the first that is free. -/
theorem exists_free (isOpen : tree.IsOpenBelow here names)
    (directory : tree.lookup here = some .directory)
    (missing : tree.lookup (names.reverse ++ here) = none) :
    ∃ front name rest, names = front ++ name :: rest ∧
      tree.lookup (front.reverse ++ here) = some .directory ∧
      tree.lookup (name :: (front.reverse ++ here)) = none := by
  induction names generalizing here with
  | nil => cases directory.symm.trans missing
  | cons name names ih =>
      rcases isOpen [name] (by simp) with free | isDirectory
      · exact ⟨[], name, names, rfl, directory, free⟩
      · obtain ⟨front, other, rest, rfl, there, free⟩ :=
          ih isOpen.tail isDirectory (by simpa using missing)
        exact ⟨name :: front, other, rest, rfl, by simpa using there, by simpa using free⟩

end IsOpenBelow

/-- Behind names that lead to a directory, the next name of a path is looked up there. -/
theorem find_beyond {rest : List String} (usable : Path.IsUsable path)
    (spelled : Path.names path = front ++ name :: rest)
    (reaches : tree.Reaches (current.origin path) front ground) :
    ∃ left behind, (behind.filter fun segment => !Path.isVoid segment) = rest ∧
      ∀ purpose, tree.find current purpose path =
        walk tree purpose left ground (name :: behind) := by
  obtain ⟨begins, ends, written, same, others⟩ := List.filter_eq_append_iff.mp spelled
  obtain ⟨void, behind, rfl, isVoid, named, left⟩ := List.filter_eq_cons_iff.mp others
  obtain ⟨directory, links, way⟩ := reaches
  have wayThere : Way tree linkLimit (current.origin path) (begins ++ void) links ground := by
    have nothing : (void.filter fun segment => !Path.isVoid segment) = [] := by
      simpa [List.filter_eq_nil_iff] using isVoid
    rw [← Way.names_iff, List.filter_append, same, nothing, List.append_nil]
    exact way
  have some : name ≠ "" := by
    rintro rfl
    simp [Path.isVoid] at named
  refine ⟨links, behind, left, fun purpose => ?_⟩
  rw [find_eq_walk usable directory, written, ← List.append_assoc]
  exact wayThere.walk purpose some behind

/-- A path is found to lead nowhere when a directory on its way is missing. -/
theorem find_notFound (purpose : Purpose) (usable : Path.IsUsable path)
    (spelled : Path.names path = front ++ (names ++ [name]))
    (reaches : tree.Reaches (current.origin path) front ground)
    (plain : ∀ other ∈ names ++ [name], IsPlainName other)
    (isOpen : tree.IsOpenBelow ground names)
    (missing : tree.lookup (names.reverse ++ ground) = none) :
    tree.find current purpose path = .error .notFound := by
  obtain ⟨shown, first, rest, rfl, there, free⟩ := isOpen.exists_free reaches.lookup missing
  have further : tree.Reaches (current.origin path) (front ++ shown) (shown.reverse ++ ground) :=
    reaches.below (fun other isMember => plain other (by simp [isMember])) there
  have whole : Path.names path = (front ++ shown) ++ first :: (rest ++ [name]) := by
    simp [spelled]
  obtain ⟨links, behind, left, finds⟩ := find_beyond usable whole further
  have more : behind.all (· = "") = false := by
    have isLast : name ∈ behind.filter fun segment => !Path.isVoid segment := by simp [left]
    rw [List.all_eq_false]
    refine ⟨name, List.mem_filter.mp isLast |>.1, fun empty => ?_⟩
    exact (plain name (by simp)).not_void (by simp [Path.isVoid, of_decide_eq_true empty])
  rw [finds purpose]
  exact walk_notFound purpose (plain first (by simp)) free more

/-- The last name of a path is looked up in the directory to which the names before it lead. -/
theorem find_behind (usable : Path.IsUsable path)
    (spelled : Path.names path = front ++ (names ++ [name]))
    (ends : ∃ begins last, Path.segments path = begins ++ [last] ∧ Path.isVoid last = false)
    (reaches : tree.Reaches (current.origin path) front ground)
    (plain : ∀ other ∈ names ++ [name], IsPlainName other)
    (directory : tree.lookup (names.reverse ++ ground) = some .directory) :
    ∃ left, ∀ purpose, tree.find current purpose path =
      walk tree purpose left (names.reverse ++ ground) [name] := by
  obtain ⟨begins, last, written, named⟩ := ends
  have whole : (begins.filter fun segment => !Path.isVoid segment) ++ [last] =
      (front ++ names) ++ [name] := by
    rw [List.append_assoc, ← spelled, Path.names, written, List.filter_append]
    simp [named]
  obtain ⟨same, lasts⟩ := List.append_inj' whole rfl
  obtain rfl := List.singleton_inj.mp lasts
  obtain ⟨starts, left, way⟩ : tree.Reaches (current.origin path) (front ++ names)
      (names.reverse ++ ground) :=
    reaches.below (fun other isMember => plain other (List.mem_append_left _ isMember)) directory
  rw [← same, Way.names_iff] at way
  refine ⟨left, fun purpose => ?_⟩
  rw [find_eq_walk usable starts, written]
  exact way.walk purpose (fun empty => (plain last (by simp)).not_void (by simp [empty, Path.isVoid])) []

end Tree

end Names

section Operations

variable {disk before : Disk} {ground here : Place} {base path source name : String}
variable {entry : Entry} {front names : List String}

theorem readDirectory_of_leads (noFaults : disk.faults = [])
    (leads : disk.tree.Leads disk.current path here) (usable : Path.IsUsable path) :
    readDirectory path disk = (.ok (disk.tree.names here), disk) := by
  refine attempt_of_ok noFaults ?_
  rw [Disk.find, leads.find usable]

/-- A link or a directory can be removed behind the path of a directory. -/
theorem removeTree_of_leads (noFaults : disk.faults = [])
    (leads : disk.tree.Leads disk.current base here) (proper : Path.IsProper name)
    (plain : IsPlainName name) (usable : Path.IsUsable (Path.join base name))
    (there : disk.tree.lookup (name :: here) = some entry)
    (isTree : entry = .directory ∨ ∃ target, entry = .link target) :
    ∃ after, removeTree (Path.join base name) disk = (.ok (), after) ∧ after.faults = [] := by
  obtain ⟨left, walks⟩ := leads.find_last proper usable
  have found : disk.findLink (Path.join base name) = .ok (.present (name :: here) entry) :=
    (walks .entry).trans (walk_entry plain there (.inr (.inl rfl)))
  rcases isTree with rfl | ⟨target, rfl⟩
  · -- The directory goes as well, unless its path went through what was in it.
    by_cases stays : ∃ place left, (disk.tree.put (name :: here) .directory).find disk.current
        .entry (Path.join base name) = .ok (.present place left)
    · obtain ⟨place, left, emptied⟩ := stays
      refine ⟨{ disk with tree := disk.tree.clear (name :: here) }, attempt_of_ok noFaults ?_, noFaults⟩
      rw [found]
      simp only [emptied]
    · refine ⟨{ disk with tree := disk.tree.put (name :: here) .directory },
        attempt_of_ok noFaults ?_, noFaults⟩
      rw [found]
      dsimp only
      split
      next place left emptied => exact absurd ⟨place, left, emptied⟩ stays
      next => rfl
  · refine ⟨{ disk with tree := disk.tree.clear (name :: here) }, attempt_of_ok noFaults ?_, noFaults⟩
    rw [found]

/-- A link or a file can be removed behind the path of a directory. -/
theorem removeFile_of_leads (noFaults : disk.faults = [])
    (leads : disk.tree.Leads disk.current base here) (proper : Path.IsProper name)
    (plain : IsPlainName name) (usable : Path.IsUsable (Path.join base name))
    (there : disk.tree.lookup (name :: here) = some entry) (notDirectory : entry ≠ .directory) :
    ∃ after, removeFile (Path.join base name) disk = (.ok (), after) ∧ after.faults = [] := by
  obtain ⟨left, walks⟩ := leads.find_last proper usable
  have found : disk.findName (Path.join base name) = .ok (.present (name :: here) entry) :=
    (walks .name).trans (walk_entry plain there (.inr (.inr rfl)))
  refine ⟨{ disk with tree := disk.tree.clear (name :: here) }, attempt_of_ok noFaults ?_, noFaults⟩
  rw [found]
  cases entry with
  | directory => exact absurd rfl notDirectory
  | file | link | device => simp [Path.endsInSlash_join proper]

/-- A file can be copied behind the path of a directory, to a free name or over a file. -/
theorem copyFile_of_leads (noFaults : disk.faults = []) {identity : Nat} {content : ByteArray}
    {executable : Bool} (isFile : disk.entryAt? source = .ok (.file identity content executable))
    (leads : disk.tree.Leads disk.current base here) (proper : Path.IsProper name)
    (plain : IsPlainName name) (usable : Path.IsUsable (Path.join base name))
    (writable : Entry.IsWritable (disk.tree.lookup (name :: here))) :
    ∃ after, copyFile source (Path.join base name) disk = (.ok (), after) ∧ after.faults = [] := by
  obtain ⟨left, walks⟩ := leads.find_last proper usable
  have fill {opened : Disk} {place : Place} {other : Nat} {mode : Bool}
      (opens : openForWriting (Path.join base name) true executable disk =
        (.ok (.file place other mode), opened)) (quiet : opened.faults = []) :
      ∃ after, copyFile source (Path.join base name) disk = (.ok (), after) ∧ after.faults = [] := by
    have stored := storeBytes_of_noFaults quiet place other mode content
    exact ⟨_, copyFile_of_ok noFaults isFile ((Effect.bind_of_ok opens).trans stored), quiet⟩
  cases there : disk.tree.lookup (name :: here) with
  | none =>
      have free := (walks .newFile).trans (walk_free .newFile plain there)
      exact fill (openForWriting_of_absent noFaults free executable) noFaults
  | some entry =>
      obtain ⟨other, bytes, mode, rfl⟩ := writable entry there
      have found := (walks .newFile).trans (walk_entry plain there (.inl (by simp)))
      exact fill (openForWriting_of_present noFaults found executable) noFaults

/-- A directory that could not be made is accepted where there is one. -/
theorem acceptDirectory_of_found {cause : Cause} {place : Place}
    (found : disk.find path = .ok (.present place .directory)) :
    acceptDirectory path cause disk = (.ok (), disk) := by
  have isDirectory : disk.isDirectory path = true := by
    rw [Disk.isDirectory, Disk.entryAt?, found]
  change (if disk.isDirectory path then pure () else throw _ : Operation Unit) disk = _
  rw [if_pos isDirectory]
  rfl

theorem makeDirectoriesUp_of_leads (levels : Nat) (noFaults : disk.faults = [])
    (usable : Path.IsUsable path) (leads : disk.tree.Leads disk.current path here) :
    ∃ after, makeDirectoriesUp levels path disk = (.ok (), after) ∧ after.faults = [] := by
  have found := leads.find usable
  obtain ⟨-, directory, walked⟩ := Tree.find_done found
  obtain ⟨target, named⟩ := walk_name_of_content walked
  rw [← Tree.find_eq_walk usable directory] at named
  cases target with
  | absent place slash =>
      exact ⟨_, makeDirectoriesUp_of_absent levels noFaults usable.notEmpty named, noFaults⟩
  | present place entry =>
      have present : makeDirectory path disk = (.error .alreadyExists, disk) :=
        attempt_of_error noFaults (by rw [Disk.findName, named])
      refine ⟨disk, ?_, noFaults⟩
      unfold makeDirectoriesUp
      rw [if_neg usable.notEmpty, Effect.tryCatch_of_error present, if_neg (by decide)]
      exact acceptDirectory_of_found found

/-- The last directory on a path is made when it is missing in the directory around it, and
otherwise accepted. -/
theorem makeDirectory_or_accept {links : Nat} (noFaults : disk.faults = [])
    (plain : IsPlainName name)
    (finds : ∀ purpose, disk.tree.find disk.current purpose path =
      walk disk.tree purpose links here [name])
    (directory : disk.tree.lookup here = some .directory)
    (isOpen : disk.tree.lookup (name :: here) = none ∨
      disk.tree.lookup (name :: here) = some .directory)
    {handler : Cause → Operation Unit}
    (accepts : handler .alreadyExists = acceptDirectory path .alreadyExists) :
    ∃ after, tryCatch (makeDirectory path) handler disk = (.ok (), after) ∧
      after.faults = [] ∧ after.tree.lookup (name :: here) = some .directory := by
  rcases isOpen with free | there
  · have named : disk.findName path = .ok (.absent (name :: here) false) :=
      (finds .name).trans (walk_free .name plain free)
    have made : makeDirectory path disk =
        (.ok (), { disk with tree := disk.tree.put (name :: here) .directory }) :=
      attempt_of_ok noFaults (by rw [named])
    exact ⟨_, Effect.tryCatch_of_ok made, noFaults, disk.tree.lookup_put_self _ directory⟩
  · have named : disk.findName path = .ok (.present (name :: here) .directory) :=
      (finds .name).trans (walk_entry plain there (.inl nofun))
    have found : disk.find path = .ok (.present (name :: here) .directory) :=
      (finds .content).trans (walk_entry plain there (.inl nofun))
    have present : makeDirectory path disk = (.error .alreadyExists, disk) :=
      attempt_of_error noFaults (by rw [named])
    refine ⟨disk, ?_, noFaults, there⟩
    rw [Effect.tryCatch_of_error present, accepts]
    exact acceptDirectory_of_found found

/-- A directory can be made behind the path of a directory, or is accepted there. -/
theorem makeDirectories_of_leads (noFaults : disk.faults = [])
    (leads : disk.tree.Leads disk.current base here) (proper : Path.IsProper name)
    (plain : IsPlainName name) (usable : Path.IsUsable (Path.join base name))
    (isOpen : disk.tree.lookup (name :: here) = none ∨
      disk.tree.lookup (name :: here) = some .directory) :
    ∃ after, makeDirectories (Path.join base name) disk = (.ok (), after) ∧ after.faults = [] := by
  obtain ⟨left, walks⟩ := leads.find_last proper usable
  obtain ⟨after, made, quiet, -⟩ : ∃ after, makeDirectories (Path.join base name) disk =
      (.ok (), after) ∧ after.faults = [] ∧ after.tree.lookup (name :: here) = some .directory := by
    rw [makeDirectories]
    unfold makeDirectoriesUp
    rw [if_neg usable.notEmpty]
    exact makeDirectory_or_accept noFaults plain walks leads.lookup isOpen rfl
  exact ⟨after, made, quiet⟩

/-- A path with names behind those that lead to a directory, where only directories are on the
way down along them, as far as something is there. -/
structure IsMakeable (path : String) (front names : List String) (ground : Place) (disk : Disk) :
    Prop where
  usable : path = "" ∨ Path.IsUsable path
  spelled : Path.names path = front ++ names
  ends : names ≠ [] →
    ∃ begins last, Path.segments path = begins ++ [last] ∧ Path.isVoid last = false
  reaches : disk.tree.Reaches (disk.current.origin path) front ground
  proper : ∀ name ∈ names, Path.IsProper name
  plain : ∀ name ∈ names, IsPlainName name
  isOpen : disk.tree.IsOpenBelow ground names

namespace IsMakeable

theorem isUsable (makeable : IsMakeable path front (names ++ [name]) ground disk) :
    Path.IsUsable path := by
  refine makeable.usable.resolve_left ?_
  rintro rfl
  have nothing : front ++ (names ++ [name]) = [] := makeable.spelled.symm
  simp at nothing

/-- The path to the directory around is one of this kind as well. -/
theorem parent (makeable : IsMakeable path front (names ++ [name]) ground disk) :
    ∃ around, Path.parent? path = some around ∧ IsMakeable around front names ground disk := by
  have usable := makeable.isUsable
  obtain ⟨around, isParent⟩ : ∃ around, Path.parent? path = some around :=
    Path.exists_parent (by simp [makeable.spelled])
  obtain ⟨sameStart, fewer⟩ := Path.names_parent isParent
  have spelled : Path.names around = front ++ names := by
    rw [fewer, makeable.spelled, ← List.append_assoc, List.dropLast_concat]
  refine ⟨around, isParent, ?_, spelled, fun some => ?_, ?_, ?_, ?_, ?_⟩
  · obtain ⟨rest, rfl⟩ := Path.isPrefix_parent isParent
    by_cases empty : around = ""
    · exact .inl empty
    · refine .inr ⟨fun nul => usable.noNul (by simp [nul]), empty, fun long => usable.short ?_⟩
      rw [String.utf8ByteSize_append]
      omega
  · exact Path.segments_parent isParent (by simp [spelled, some])
  · rw [Place.origin, sameStart]
    exact makeable.reaches
  · exact fun other isMember => makeable.proper other (List.mem_append_left _ isMember)
  · exact fun other isMember => makeable.plain other (List.mem_append_left _ isMember)
  · exact fun shown isPrefix => makeable.isOpen shown (isPrefix.trans (List.prefix_append _ _))

/-- It stays one when directories have been made on the way along it. -/
theorem added {after : Disk} (makeable : IsMakeable path front names ground before)
    (adds : before.AddsDirectories path after) : IsMakeable path front names ground after where
  usable := makeable.usable
  spelled := makeable.spelled
  ends := makeable.ends
  reaches := by
    rw [adds.current]
    exact makeable.reaches.kept fun _ _ _ found => adds.keeps found
  proper := makeable.proper
  plain := makeable.plain
  isOpen shown isPrefix := by
    rcases adds.places (shown.reverse ++ ground) with same | ⟨-, made, -⟩
    · rw [same]
      exact makeable.isOpen shown isPrefix
    · exact .inr made

theorem makeDirectoriesUp_ground (makeable : IsMakeable path front [] ground disk)
    (noFaults : disk.faults = []) (levels : Nat) :
    ∃ after, FileSystem.makeDirectoriesUp levels path disk = (.ok (), after) ∧
      after.faults = [] ∧ after.tree.lookup ground = some .directory := by
  by_cases empty : path = ""
  · refine ⟨disk, ?_, noFaults, makeable.reaches.lookup⟩
    unfold FileSystem.makeDirectoriesUp
    rw [if_pos empty]
    rfl
  · have leads : disk.tree.Leads disk.current path ground := by
      rw [Tree.Leads, makeable.spelled, List.append_nil]
      exact makeable.reaches
    obtain ⟨after, made, quiet⟩ :=
      makeDirectoriesUp_of_leads levels noFaults (makeable.usable.resolve_left empty) leads
    have adds := (Disk.AddsDirectories.makeDirectoriesUp levels path).states made
    exact ⟨after, made, quiet, adds.keeps makeable.reaches.lookup⟩

/-- Where no fault strikes, such a path is made with everything on its way: one level is tried
after another upwards, until the directory around is there. -/
theorem makeDirectoriesUp {levels : Nat} (makeable : IsMakeable path front names ground disk)
    (noFaults : disk.faults = []) (enough : names.length ≤ levels) :
    ∃ after, FileSystem.makeDirectoriesUp levels path disk = (.ok (), after) ∧
      after.faults = [] ∧ after.tree.lookup (names.reverse ++ ground) = some .directory := by
  induction levels generalizing path names with
  | zero =>
      obtain rfl := List.length_eq_zero_iff.mp (Nat.le_zero.mp enough)
      exact makeable.makeDirectoriesUp_ground noFaults 0
  | succ fewer ih =>
      rcases List.eq_nil_or_concat names with rfl | ⟨names, name, rfl⟩
      · exact makeable.makeDirectoriesUp_ground noFaults (fewer + 1)
      rw [List.concat_eq_append] at makeable enough ⊢
      have spelling : (names ++ [name]).reverse ++ ground = name :: (names.reverse ++ ground) := by
        simp
      rw [spelling]
      have usable := makeable.isUsable
      have plain := makeable.plain name (by simp)
      have finds {later : Disk} (still : IsMakeable path front (names ++ [name]) ground later) :=
        Tree.find_behind usable still.spelled (still.ends (by simp)) still.reaches still.plain
      have isOpen {later : Disk} (still : IsMakeable path front (names ++ [name]) ground later) :
          later.tree.lookup (name :: (names.reverse ++ ground)) = none ∨
            later.tree.lookup (name :: (names.reverse ++ ground)) = some .directory := by
        exact spelling ▸ still.isOpen (names ++ [name]) (List.prefix_refl _)
      unfold FileSystem.makeDirectoriesUp
      rw [if_neg usable.notEmpty]
      rcases makeable.isOpen names (List.prefix_append _ _) with missing | directory
      · have refused : makeDirectory path disk = (.error .notFound, disk) := by
          refine attempt_of_error noFaults ?_
          rw [Disk.findName, Tree.find_notFound .name usable makeable.spelled makeable.reaches
            makeable.plain (fun shown isPrefix =>
              makeable.isOpen shown (isPrefix.trans (List.prefix_append _ _))) missing]
        obtain ⟨around, isParent, makeableAround⟩ := makeable.parent
        obtain ⟨next, up, quiet, directory⟩ := ih makeableAround (by simpa using enough)
        have still := makeable.added
          (((Disk.AddsDirectories.makeDirectoriesUp _ _).states up).up isParent)
        obtain ⟨left, behind⟩ := finds still directory
        obtain ⟨after, made, calm⟩ := makeDirectory_or_accept quiet plain behind directory
          (isOpen still) rfl
        refine ⟨after, ?_, calm⟩
        rw [Effect.tryCatch_of_error refused, if_pos rfl, isParent]
        dsimp only
        rw [Effect.bind_of_ok up]
        exact made
      · obtain ⟨left, behind⟩ := finds makeable directory
        exact makeDirectory_or_accept noFaults plain behind directory (isOpen makeable) rfl

theorem makeDirectories (makeable : IsMakeable path front names ground disk)
    (noFaults : disk.faults = []) :
    ∃ after, FileSystem.makeDirectories path disk = (.ok (), after) ∧ after.faults = [] := by
  have enough : names.length ≤ (Path.segments path).length := by
    have fewer : (Path.names path).length ≤ (Path.segments path).length := List.length_filter_le ..
    rw [makeable.spelled, List.length_append] at fewer
    omega
  obtain ⟨after, made, quiet, -⟩ := makeable.makeDirectoriesUp noFaults enough
  exact ⟨after, made, quiet⟩

end IsMakeable

end Operations

end SnippetSandbox.FileSystem
