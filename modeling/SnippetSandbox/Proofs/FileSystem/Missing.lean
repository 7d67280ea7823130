import SnippetSandbox.Proofs.FileSystem.Progress

/-!
# What making directories does not bring about

Making the directories around a path changes little about where the path leads.  If it led
to an entry, it still leads there; if it was refused, it still is.  If something was missing,
its last name is missing afterwards, as long as the path goes straight down: only a path that
goes out of a new directory again, or has a name that is too long, can lead elsewhere.
-/

namespace SnippetSandbox

open FileSystem

namespace Path

theorem parent_of_noNames {path around : String} (noNames : names path = [])
    (isParent : parent? path = some around) : around = "" := by
  cases parent?_eq_some_iff.mp isParent with
  | rooted absolute some =>
      rw [names_of_isAbsolute absolute] at noNames
      exact absurd (dropVoidEnd_eq_nil noNames) some
  | alone => rfl
  | @inside first others relative written named =>
      rw [names, written, List.filter_eq_nil_iff] at noNames
      have blank : others.all isVoid = true := by
        simpa using fun segment isMember => noNames segment (List.mem_cons_of_mem first isMember)
      cases blank.symm.trans named

end Path

namespace FileSystem

section Walks

variable {tree grown : Tree} {purpose : Purpose} {links : Nat} {here current : Place}
variable {segments : List String} {path : String} {cause : Cause}

/-- A walk that is refused, and not because something is missing, is refused for the same
reason where more entries are. -/
theorem walk_refused
    (kept : ∀ place entry, tree.lookup place = some entry → grown.lookup place = some entry)
    (refused : walk tree purpose links here segments = .error cause) (other : cause ≠ .notFound) :
    walk grown purpose links here segments = .error cause := by
  fun_induction walk tree purpose links here segments with
  | case3 links here segment rest void ih =>
      rw [walk_void void]
      exact ih refused
  | case4 links here rest notVoid ih =>
      rw [walk_up]
      exact ih refused
  | case5 links here segment rest notVoid notUp slash =>
      rw [walk, if_neg notVoid, if_neg notUp, if_pos slash]
      exact refused
  | case6 links here segment rest notVoid notUp notSlash long =>
      rw [walk, if_neg notVoid, if_neg notUp, if_neg notSlash, if_pos long]
      exact refused
  | case10 here segment rest notVoid notUp notSlash fits link found follows =>
      rw [walk_plain ⟨notVoid, notUp, fits⟩ notSlash, kept _ _ found]
      simpa only [if_neg follows] using refused
  | case11 here segment rest notVoid notUp notSlash fits link found follows fewer ih =>
      rw [walk_follow ⟨notVoid, notUp, fits⟩ notSlash (kept _ _ found) follows]
      exact ih refused
  | case13 links here segment rest notVoid notUp notSlash fits found enters ih =>
      rw [walk_enter ⟨notVoid, notUp, fits⟩ notSlash (kept _ _ found) enters]
      exact ih refused
  | case15 links here segment rest notVoid notUp notSlash fits entry notLink notDirectory found
      more =>
      rw [walk_plain ⟨notVoid, notUp, fits⟩ notSlash, kept _ _ found]
      simpa only [if_neg more] using refused
  | case1 | case7 | case9 | case12 | case14 => cases refused
  | case2 | case8 =>
      cases refused
      exact absurd rfl other

theorem Tree.find_refused
    (kept : ∀ place entry, tree.lookup place = some entry → grown.lookup place = some entry)
    (refused : tree.find current purpose path = .error cause) (other : cause ≠ .notFound) :
    grown.find current purpose path = .error cause := by
  rw [Tree.find] at refused ⊢
  split at refused
  next inside => rwa [if_pos inside]
  next noNul =>
    rw [if_neg noNul]
    split at refused
    next => exact absurd (Except.error.inj refused).symm other
    next some =>
      rw [if_neg some]
      split at refused
      next long => rwa [if_pos long]
      next short =>
        rw [if_neg short]
        dsimp only at refused ⊢
        generalize (if Path.isAbsolute path then [] else current) = start at refused ⊢
        split at refused
        next directory =>
          rw [if_pos (kept _ _ directory)]
          exact walk_refused kept refused other
        next => exact absurd (Except.error.inj refused).symm other

end Walks

section Disks

variable {disk before after : Disk} {path around : String} {ground : Place}

theorem Disk.Grows.entryAt?_refused {cause : Cause} (grows : before.Grows after)
    (refused : before.entryAt? path = .error cause) (other : cause ≠ .notFound) :
    after.entryAt? path = .error cause := by
  rw [Disk.entryAt?, Disk.find] at refused ⊢
  rw [grows.1]
  split at refused
  next => cases refused
  next => exact absurd (Except.error.inj refused).symm other
  next ended =>
    obtain rfl := Except.error.inj refused
    rw [Tree.find_refused grows.2 ended other]

theorem isUsable_of_missing (missing : disk.entryAt? path = .error .notFound)
    (some : path ≠ "") : Path.IsUsable path := by
  rw [Disk.entryAt?, Disk.find, Tree.find] at missing
  by_cases inside : '\x00' ∈ path.toList
  · rw [if_pos inside] at missing
    cases missing
  · rw [if_neg inside, if_neg some] at missing
    by_cases long : pathLimit ≤ path.utf8ByteSize
    · rw [if_pos long] at missing
      cases missing
    · exact ⟨inside, some, long⟩

theorem Disk.missing_beyond {front rest : List String} {name : String}
    (usable : Path.IsUsable path) (spelled : Path.names path = front ++ name :: rest)
    (reaches : disk.tree.Reaches (disk.current.origin path) front ground)
    (plain : IsPlainName name) (free : disk.tree.lookup (name :: ground) = none) :
    disk.entryAt? path = .error .notFound := by
  obtain ⟨left, behind, -, finds⟩ := Tree.find_beyond usable spelled reaches
  rw [Disk.entryAt?, Disk.find, finds, walk_plain plain (by simp), free]
  by_cases blank : behind.all (· = "") = true <;> simp [blank]

/-- A path that goes on behind another one, and leads nowhere, does not lead anywhere else. -/
def Disk.KeepsMissing (path around : String) (before after : Disk) : Prop :=
  Path.isAbsolute around = Path.isAbsolute path →
  (∃ name rest, Path.names path = Path.names around ++ name :: rest) →
  before.entryAt? path = .error .notFound → after.entryAt? path = .error .notFound

namespace Disk.KeepsMissing

theorem makeDirectory (plain : ∀ name ∈ Path.names path, IsPlainName name) (around : String) :
    Effect.Relates (Disk.KeepsMissing path around) (FileSystem.makeDirectory around) := by
  intro first
  rcases done : FileSystem.makeDirectory around first with ⟨cause | ⟨⟩, second⟩
  · rcases makeDirectory_cases done with ⟨-, rfl⟩ | ⟨⟨⟩, -⟩
    intro _ _ missing
    rwa [Disk.entryAt?, Disk.find, first.nextFault_tree, first.nextFault_current]
  · rintro sameStart ⟨name, rest, spelled⟩ missing
    obtain ⟨-, -, place, leads, empty⟩ := Disk.AddsDirectories.leads_of_makeDirectory done
    rw [Tree.Leads, Place.origin, sameStart] at leads
    have some : path ≠ "" := by
      rintro rfl
      have nothing : Path.names "" = [] := by decide
      simp [nothing] at spelled
    exact missing_beyond (isUsable_of_missing missing some) spelled leads
      (plain name (by simp [spelled])) (empty name)

theorem up {around outer : String} (isParent : Path.parent? around = some outer)
    (keeps : Disk.KeepsMissing path outer before after) :
    Disk.KeepsMissing path around before after := by
  obtain ⟨sameStart, fewer⟩ := Path.names_parent isParent
  rintro same ⟨name, rest, spelled⟩
  refine keeps (sameStart.trans same) ?_
  rcases List.eq_nil_or_concat (Path.names around) with nothing | ⟨front, last, whole⟩
  · exact ⟨name, rest, by simpa [fewer, nothing] using spelled⟩
  · exact ⟨last, name :: rest, by simpa [fewer, whole] using spelled⟩

theorem makeDirectories (plain : ∀ name ∈ Path.names path, IsPlainName name) (around : String) :
    Effect.Relates (Disk.KeepsMissing path around) (FileSystem.makeDirectories around) :=
  relates_makeDirectoriesUp (fun _ _ _ _ missing => missing)
    (fun _ _ _ _ one two same goesOn missing => two same goesOn (one same goesOn missing))
    (makeDirectory plain) up _ around

end Disk.KeepsMissing

/-- A path that leads straight down to nothing still does when the directories around it have
been made. -/
theorem missing_makeDirectories (isParent : Path.parent? path = some around)
    (plain : ∀ name ∈ Path.names path, IsPlainName name) {answer : Except Cause Unit}
    (made : makeDirectories around before = (answer, after))
    (missing : before.entryAt? path = .error .notFound) :
    after.entryAt? path = .error .notFound := by
  obtain ⟨sameStart, fewer⟩ := Path.names_parent isParent
  rcases List.eq_nil_or_concat (Path.names path) with nothing | ⟨front, last, whole⟩
  · obtain rfl := Path.parent_of_noNames nothing isParent
    rw [makeDirectories] at made
    unfold makeDirectoriesUp at made
    rw [if_pos rfl] at made
    cases made
    exact missing
  · refine (Disk.KeepsMissing.makeDirectories plain around).states made sameStart ⟨last, [], ?_⟩
      missing
    rw [fewer, whole]
    simp

end Disks

end FileSystem

end SnippetSandbox
