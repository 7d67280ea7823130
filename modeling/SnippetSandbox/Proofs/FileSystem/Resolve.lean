import SnippetSandbox.FileSystem.Resolve
import SnippetSandbox.Proofs.FileSystem.Tree

/-!
# Walks and their steps

A walk takes one segment after the other, and each step says where the rest is walked from.
A walk that ended at a place takes the same way again when nothing but that place has
changed, because no step before the last one depends on what is there.  What it finds at
its end is decided by the changed entry alone.
-/

namespace SnippetSandbox.FileSystem

def Target.place : Target → Place
  | .present place _ => place
  | .absent place _ => place

/-- A name that a walk takes as it stands: it is looked up in the directory. -/
structure IsPlainName (name : String) : Prop where
  not_void : ¬ Path.isVoid name = true
  not_up : name ≠ ".."
  fits : ¬ nameLimit < name.utf8ByteSize

def Target.entryAt? : Target → Option Entry
  | .present _ entry => some entry
  | .absent _ _ => none

section Steps

variable {tree : Tree} {purpose : Purpose} {links : Nat} {here : Place}
variable {segment name : String} {rest : List String} {entry : Entry}

theorem walk_here (there : tree.lookup here = some entry) :
    walk tree purpose links here [] = .ok (.present here entry) := by
  rw [walk, there]

theorem walk_void (isVoid : Path.isVoid segment = true) :
    walk tree purpose links here (segment :: rest) = walk tree purpose links here rest := by
  rw [walk, if_pos isVoid]

theorem walk_up :
    walk tree purpose links here (".." :: rest) = walk tree purpose links here.tail rest := by
  rw [walk, if_neg (by decide), if_pos rfl]

/-- A plain name is looked up, and what is there decides how the walk goes on. -/
theorem walk_plain (plain : IsPlainName name)
    (noSlash : ¬ (purpose = .newFile ∧ rest ≠ [] ∧ rest.all (· = "") = true)) :
    walk tree purpose links here (name :: rest) =
      match tree.lookup (name :: here) with
      | none =>
          if rest.all (· = "") then .ok (.absent (name :: here) (rest ≠ []))
          else .error .notFound
      | some (.link target) =>
          if purpose = .entry ∧ rest = [] ∨ purpose = .name ∧ rest.all (· = "") then
            .ok (.present (name :: here) (.link target))
          else
            match links with
            | 0 => .error .linkLoop
            | fewer + 1 =>
                walk tree purpose fewer (if Path.isAbsolute target then [] else here)
                  (Path.segments target ++ rest)
      | some .directory =>
          if purpose = .name ∧ rest.all (· = "") then .ok (.present (name :: here) .directory)
          else walk tree purpose links (name :: here) rest
      | some entry =>
          if rest = [] ∨ purpose = .name ∧ rest.all (· = "") then
            .ok (.present (name :: here) entry)
          else .error .notDirectory := by
  rewrite [walk, if_neg plain.not_void, if_neg plain.not_up, if_neg noSlash, if_neg plain.fits]
  rfl

theorem walk_follow {target : String} (plain : IsPlainName name)
    (noSlash : ¬ (purpose = .newFile ∧ rest ≠ [] ∧ rest.all (· = "") = true))
    (found : tree.lookup (name :: here) = some (.link target))
    (follows : ¬ (purpose = .entry ∧ rest = [] ∨ purpose = .name ∧ rest.all (· = "") = true)) :
    walk tree purpose (links + 1) here (name :: rest) =
      walk tree purpose links (if Path.isAbsolute target then [] else here)
        (Path.segments target ++ rest) := by
  rw [walk_plain plain noSlash, found]
  simp only [if_neg follows]

theorem walk_enter (plain : IsPlainName name)
    (noSlash : ¬ (purpose = .newFile ∧ rest ≠ [] ∧ rest.all (· = "") = true))
    (found : tree.lookup (name :: here) = some .directory)
    (enters : ¬ (purpose = .name ∧ rest.all (· = "") = true)) :
    walk tree purpose links here (name :: rest) = walk tree purpose links (name :: here) rest := by
  rw [walk_plain plain noSlash, found]
  simp only [if_neg enters]

theorem walk_free (purpose : Purpose) (plain : IsPlainName name)
    (free : tree.lookup (name :: here) = none) :
    walk tree purpose links here [name] = .ok (.absent (name :: here) false) := by
  rw [walk_plain plain (by simp), free]
  simp

/-- A walk ends at the entry with a name in a directory, unless a link is to be followed. -/
theorem walk_entry {purpose : Purpose} (plain : IsPlainName name)
    (there : tree.lookup (name :: here) = some entry)
    (stays : (∀ target, entry ≠ .link target) ∨ purpose = .entry ∨ purpose = .name) :
    walk tree purpose links here [name] = .ok (.present (name :: here) entry) := by
  rw [walk_plain plain (by simp), there]
  cases entry with
  | directory => by_cases atName : purpose = .name <;> simp [atName, walk, there]
  | link target =>
      have itself := stays.resolve_left fun noLink => noLink target rfl
      simp [itself]
  | file | device => simp

theorem walk_notFound (purpose : Purpose) {rest : List String} (plain : IsPlainName name)
    (free : tree.lookup (name :: here) = none) (more : rest.all (· = "") = false) :
    walk tree purpose links here (name :: rest) = .error .notFound := by
  rw [walk_plain plain (by simp [more]), free]
  simp [more]

end Steps

/-- A walk that ended at an entry, or at a free name, was right about it. -/
theorem walk_ends {tree : Tree} {purpose : Purpose} {links : Nat} {here : Place}
    {segments : List String} {target : Target}
    (ended : walk tree purpose links here segments = .ok target) :
    tree.lookup target.place = target.entryAt? := by
  fun_induction walk tree purpose links here segments with
  | case3 _ _ _ _ _ ih => exact ih ended
  | case4 _ _ _ _ ih => exact ih ended
  | case11 _ _ _ _ _ _ _ _ _ _ _ ih => exact ih ended
  | case13 _ _ _ _ _ _ _ _ _ _ ih => exact ih ended
  | case1 | case7 | case9 | case12 | case14 =>
      cases ended
      assumption
  | case2 | case5 | case6 | case8 | case10 | case15 => cases ended

theorem lookup_tail {tree : Tree} {here : Place} (directory : tree.lookup here = some .directory) :
    tree.lookup here.tail = some .directory := by
  cases here with
  | nil => exact directory
  | cons name around => exact Tree.lookup_around directory

theorem lookup_followed {tree : Tree} {here : Place}
    (directory : tree.lookup here = some .directory) (target : String) :
    tree.lookup (if Path.isAbsolute target then [] else here) = some .directory := by
  split
  · exact tree.lookup_root
  · exact directory

theorem walk_around {tree : Tree} {purpose : Purpose} {links : Nat} {here : Place}
    {segments : List String} {target : Target} (directory : tree.lookup here = some .directory)
    (ended : walk tree purpose links here segments = .ok target) :
    tree.lookup target.place.tail = some .directory := by
  fun_induction walk tree purpose links here segments with
  | case1 =>
      cases ended
      exact lookup_tail directory
  | case3 _ _ _ _ _ ih => exact ih directory ended
  | case4 _ _ _ _ ih => exact ih (lookup_tail directory) ended
  | case11 here _ _ _ _ _ _ link _ _ _ ih => exact ih (lookup_followed directory link) ended
  | case13 _ _ _ _ _ _ _ _ found _ ih => exact ih found ended
  | case7 | case9 | case12 | case14 =>
      cases ended
      exact directory
  | case2 | case5 | case6 | case8 | case10 | case15 => cases ended

/-- No walk gets past a name that is free. -/
theorem walk_missing {tree : Tree} {links : Nat} {name : String} {around : Place}
    {rest : List String} (plain : IsPlainName name)
    (missing : tree.lookup (name :: around) = none) (place : Place) (entry : Entry) :
    walk tree .content links around (name :: rest) ≠ .ok (.present place entry) := by
  rw [walk_plain plain (by simp), missing]
  dsimp only
  split <;> simp

/-- A walk that ended at an entry ends there too where more entries are. -/
theorem walk_grown {tree grown : Tree}
    (kept : ∀ place entry, tree.lookup place = some entry → grown.lookup place = some entry)
    {purpose : Purpose} {links : Nat} {here : Place} {segments : List String} {place : Place}
    {entry : Entry}
    (ended : walk tree purpose links here segments = .ok (.present place entry)) :
    walk grown purpose links here segments = .ok (.present place entry) := by
  fun_induction walk tree purpose links here segments with
  | case1 links here found there =>
      rw [walk_here (kept _ _ there)]
      exact ended
  | case3 links here segment rest void ih =>
      rw [walk_void void]
      exact ih ended
  | case4 links here rest notVoid ih =>
      rw [walk_up]
      exact ih ended
  | case9 links here segment rest notVoid notUp notSlash fits link found stays =>
      rw [walk_plain ⟨notVoid, notUp, fits⟩ notSlash, kept _ _ found]
      simpa only [if_pos stays] using ended
  | case11 here segment rest notVoid notUp notSlash fits link found follows fewer ih =>
      rw [walk_follow ⟨notVoid, notUp, fits⟩ notSlash (kept _ _ found) follows]
      exact ih ended
  | case12 links here segment rest notVoid notUp notSlash fits found stays =>
      rw [walk_plain ⟨notVoid, notUp, fits⟩ notSlash, kept _ _ found]
      simpa only [if_pos stays] using ended
  | case13 links here segment rest notVoid notUp notSlash fits found enters ih =>
      rw [walk_enter ⟨notVoid, notUp, fits⟩ notSlash (kept _ _ found) enters]
      exact ih ended
  | case14 links here segment rest notVoid notUp notSlash fits other notLink notDirectory found
      ends =>
      rw [walk_plain ⟨notVoid, notUp, fits⟩ notSlash, kept _ _ found]
      simpa only [if_pos ends] using ended
  | case2 | case5 | case6 | case7 | case8 | case10 | case15 => cases ended

section Arrivals

variable {tree changed : Tree} {name : String} {around : Place} {purpose : Purpose}

/-- A walk through the second tree comes to a name of a directory.  It is the last name when
the walk was for a new file and no link stands in the first tree. -/
def ArrivesAt (tree changed : Tree) (name : String) (around : Place) (purpose : Purpose)
    (links : Nat) (here : Place) (segments : List String) : Prop :=
  ∃ linksLeft rest, IsPlainName name ∧
    (purpose = .newFile → (∀ link, tree.lookup (name :: around) ≠ some (.link link)) →
      rest = []) ∧
    walk changed .content links here segments =
      walk changed .content linksLeft around (name :: rest)

theorem ArrivesAt.of_step {links linksLeft : Nat} {here there : Place}
    {segments rest : List String}
    (arrives : ArrivesAt tree changed name around purpose linksLeft there rest)
    (step : walk changed .content links here segments =
      walk changed .content linksLeft there rest) :
    ArrivesAt tree changed name around purpose links here segments := by
  obtain ⟨atName, behind, plain, atEnd, onward⟩ := arrives
  exact ⟨atName, behind, plain, atEnd, step.trans onward⟩

/-- A walk that ended at a place, where no directory was, gets to the same name
of the same directory in a tree that is the same away from that place. -/
theorem walk_arrives
    (same : ∀ other, ¬ (name :: around) <:+ other → changed.lookup other = tree.lookup other)
    (noDirectory : tree.lookup (name :: around) ≠ some .directory)
    {links : Nat} {here : Place} {segments : List String} {target : Target}
    (directory : tree.lookup here = some .directory)
    (ended : walk tree purpose links here segments = .ok target)
    (atPlace : target.place = name :: around) :
    ArrivesAt tree changed name around purpose links here segments := by
  have unchanged {other : Place} {entry : Entry} (found : tree.lookup other = some entry)
      (different : name :: around ≠ other) : changed.lookup other = some entry := by
    rw [same other fun inside => noDirectory (Tree.lookup_of_suffix found inside different)]
    exact found
  -- Every case but the last of the walk is a step that the changed tree takes too.
  fun_induction walk tree purpose links here segments with
  | case1 =>
      cases ended
      exact absurd (atPlace ▸ directory) noDirectory
  | case3 _ _ _ _ void ih => exact (ih directory ended).of_step (walk_void void)
  | case4 _ _ _ _ ih => exact (ih (lookup_tail directory) ended).of_step walk_up
  | case7 links here segment rest notVoid notUp notSlash fits missing blank =>
      cases ended
      obtain ⟨rfl, rfl⟩ := List.cons.inj atPlace
      refine ⟨links, rest, ⟨notVoid, notUp, fits⟩, ?_, rfl⟩
      intro newFile _
      by_cases last : rest = []
      · exact last
      · exact absurd ⟨newFile, last, blank⟩ notSlash
  | case9 links here segment rest notVoid notUp notSlash fits link found stays =>
      cases ended
      obtain ⟨rfl, rfl⟩ := List.cons.inj atPlace
      exact ⟨links, rest, ⟨notVoid, notUp, fits⟩, fun _ noLink => absurd found (noLink link), rfl⟩
  | case11 here segment rest notVoid notUp notSlash fits link found follows fewer ih =>
      by_cases reached : name :: around = segment :: here
      · obtain ⟨rfl, rfl⟩ := List.cons.inj reached
        exact ⟨fewer + 1, rest, ⟨notVoid, notUp, fits⟩,
          fun _ noLink => absurd found (noLink link), rfl⟩
      · exact (ih (lookup_followed directory link) ended).of_step
          (walk_follow ⟨notVoid, notUp, fits⟩ (by simp) (unchanged found reached) (by simp))
  | case12 links here segment rest notVoid notUp notSlash fits found stays =>
      cases ended
      exact absurd (atPlace ▸ found) noDirectory
  | case13 links here segment rest notVoid notUp notSlash fits found enters ih =>
      have passed : name :: around ≠ segment :: here := by
        intro reached
        exact noDirectory (reached ▸ found)
      exact (ih found ended).of_step
        (walk_enter ⟨notVoid, notUp, fits⟩ (by simp) (unchanged found passed) (by simp))
  | case14 links here segment rest notVoid notUp notSlash fits entry notLink notDirectory found
      ends =>
      cases ended
      obtain ⟨rfl, rfl⟩ := List.cons.inj atPlace
      refine ⟨links, rest, ⟨notVoid, notUp, fits⟩, ?_, rfl⟩
      intro newFile _
      rcases ends with last | ⟨atName, _⟩
      · exact last
      · cases newFile.symm.trans atName
  | case2 | case5 | case6 | case8 | case10 | case15 => cases ended

end Arrivals

/-- A path that leads somewhere is walked from a directory, and in every tree that
has this directory. -/
theorem Tree.find_walk {tree : Tree} {current : Place} {purpose : Purpose} {path : String}
    {target : Target} (ended : tree.find current purpose path = .ok target) :
    ∃ start, tree.lookup start = some .directory ∧
      ∀ (other : Tree) (wanted : Purpose), other.lookup start = some .directory →
        other.find current wanted path =
          walk other wanted linkLimit start (Path.segments path) := by
  rw [Tree.find] at ended
  split at ended
  next => cases ended
  next noNul =>
    split at ended
    next => cases ended
    next some =>
      split at ended
      next => cases ended
      next short =>
        dsimp only at ended
        generalize origin : (if Path.isAbsolute path then [] else current) = start at ended
        split at ended
        next directory =>
          refine ⟨start, directory, ?_⟩
          intro other wanted there
          rw [Tree.find, if_neg noNul, if_neg some, if_neg short]
          dsimp only
          rw [origin, if_pos there]
        next => cases ended

/-- What is found at the end of a path was in the tree. -/
theorem Tree.find_ends {tree : Tree} {current : Place} {purpose : Purpose} {path : String}
    {target : Target} (ended : tree.find current purpose path = .ok target) :
    tree.lookup target.place = target.entryAt? := by
  obtain ⟨start, directory, walks⟩ := Tree.find_walk ended
  rw [walks tree purpose directory] at ended
  exact walk_ends ended

theorem Tree.find_around {tree : Tree} {current : Place} {purpose : Purpose} {path : String}
    {target : Target} (ended : tree.find current purpose path = .ok target) :
    tree.lookup target.place.tail = some .directory := by
  obtain ⟨start, directory, walks⟩ := Tree.find_walk ended
  rw [walks tree purpose directory] at ended
  exact walk_around directory ended

/-- A path that leads to an entry leads there too where more entries are. -/
theorem Tree.find_grown {tree grown : Tree}
    (kept : ∀ place entry, tree.lookup place = some entry → grown.lookup place = some entry)
    {current : Place} {purpose : Purpose} {path : String} {place : Place} {entry : Entry}
    (ended : tree.find current purpose path = .ok (.present place entry)) :
    grown.find current purpose path = .ok (.present place entry) := by
  obtain ⟨start, directory, walks⟩ := Tree.find_walk ended
  rw [walks tree purpose directory] at ended
  rw [walks grown purpose (kept start _ directory)]
  exact walk_grown kept ended

/-- Where a path leads to is decided at the place that it led to before. -/
theorem Tree.find_arrives {tree changed : Tree} {name : String} {around : Place}
    (same : ∀ other, ¬ (name :: around) <:+ other → changed.lookup other = tree.lookup other)
    (noDirectory : tree.lookup (name :: around) ≠ some .directory)
    {current : Place} {purpose : Purpose} {path : String} {target : Target}
    (ended : tree.find current purpose path = .ok target)
    (atPlace : target.place = name :: around) :
    ∃ linksLeft rest, IsPlainName name ∧
      (purpose = .newFile → (∀ link, tree.lookup (name :: around) ≠ some (.link link)) →
        rest = []) ∧
      changed.find current .content path =
        walk changed .content linksLeft around (name :: rest) := by
  obtain ⟨start, directory, walks⟩ := Tree.find_walk ended
  rw [walks tree purpose directory] at ended
  have apart : ¬ (name :: around) <:+ start := by
    intro inside
    by_cases reached : name :: around = start
    · exact noDirectory (reached ▸ directory)
    · exact noDirectory (Tree.lookup_of_suffix directory inside reached)
  rw [walks changed .content (by rw [same start apart, directory])]
  exact walk_arrives same noDirectory directory ended atPlace

end SnippetSandbox.FileSystem
