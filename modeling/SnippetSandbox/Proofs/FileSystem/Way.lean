import SnippetSandbox.Proofs.FileSystem.Path
import SnippetSandbox.Proofs.FileSystem.Resolve

/-!
# Ways through directories

A path that leads to something in a directory has a way to that directory as its first
part.  The way depends only on the directories and the links that it passes, so it stays
the same as long as these stay, whatever becomes of the files.
-/

namespace SnippetSandbox.FileSystem

/-- A way from one directory to another along some segments, with the number of links
that may be followed before it and after it. -/
inductive Way (tree : Tree) : Nat → Place → List String → Nat → Place → Prop
  | arrived {links : Nat} {here : Place} : Way tree links here [] links here
  | void {links left : Nat} {here there : Place} {segment : String} {rest : List String}
      (isVoid : Path.isVoid segment = true) (onward : Way tree links here rest left there) :
      Way tree links here (segment :: rest) left there
  | up {links left : Nat} {here there : Place} {rest : List String}
      (onward : Way tree links here.tail rest left there) :
      Way tree links here (".." :: rest) left there
  | follow {links left : Nat} {here there : Place} {name target : String} {rest : List String}
      (plain : IsPlainName name) (found : tree.lookup (name :: here) = some (.link target))
      (onward : Way tree links (if Path.isAbsolute target then [] else here)
        (Path.segments target ++ rest) left there) :
      Way tree (links + 1) here (name :: rest) left there
  | enter {links left : Nat} {here there : Place} {name : String} {rest : List String}
      (plain : IsPlainName name) (found : tree.lookup (name :: here) = some .directory)
      (onward : Way tree links (name :: here) rest left there) :
      Way tree links here (name :: rest) left there

/-- A way can be gone through this entry. -/
def Entry.isPassable : Entry → Bool
  | .directory | .link _ => true
  | .file .. | .device _ => false

namespace Way

variable {tree other : Tree} {links left : Nat} {here there : Place}
variable {segments first second : List String}

theorem append {middle : Place} {between : Nat} (one : Way tree links here first between middle)
    (two : Way tree between middle second left there) :
    Way tree links here (first ++ second) left there := by
  induction one with
  | arrived => exact two
  | void isVoid _ ih => exact .void isVoid (ih two)
  | up _ ih => exact .up (ih two)
  | follow plain found _ ih => exact .follow plain found (List.append_assoc .. ▸ ih two)
  | enter plain found _ ih => exact .enter plain found (ih two)

theorem split (way : Way tree links here (first ++ second) left there) :
    ∃ between middle, Way tree links here first between middle ∧
      Way tree between middle second left there := by
  generalize written : first ++ second = segments at way
  induction way generalizing first with
  | arrived =>
      obtain ⟨rfl, rfl⟩ := List.append_eq_nil_iff.mp written
      exact ⟨_, _, .arrived, .arrived⟩
  | void isVoid onward ih =>
      rcases List.append_eq_cons_iff.mp written with ⟨rfl, rfl⟩ | ⟨first, rfl, rfl⟩
      · exact ⟨_, _, .arrived, .void isVoid onward⟩
      · obtain ⟨between, middle, one, two⟩ := ih rfl
        exact ⟨between, middle, .void isVoid one, two⟩
  | up onward ih =>
      rcases List.append_eq_cons_iff.mp written with ⟨rfl, rfl⟩ | ⟨first, rfl, rfl⟩
      · exact ⟨_, _, .arrived, .up onward⟩
      · obtain ⟨between, middle, one, two⟩ := ih rfl
        exact ⟨between, middle, .up one, two⟩
  | follow plain found onward ih =>
      rcases List.append_eq_cons_iff.mp written with ⟨rfl, rfl⟩ | ⟨first, rfl, rfl⟩
      · exact ⟨_, _, .arrived, .follow plain found onward⟩
      · obtain ⟨between, middle, one, two⟩ := ih (List.append_assoc ..)
        exact ⟨between, middle, .follow plain found one, two⟩
  | enter plain found onward ih =>
      rcases List.append_eq_cons_iff.mp written with ⟨rfl, rfl⟩ | ⟨first, rfl, rfl⟩
      · exact ⟨_, _, .arrived, .enter plain found onward⟩
      · obtain ⟨between, middle, one, two⟩ := ih rfl
        exact ⟨between, middle, .enter plain found one, two⟩

theorem lookup_end (way : Way tree links here segments left there)
    (directory : tree.lookup here = some .directory) : tree.lookup there = some .directory := by
  induction way with
  | arrived => exact directory
  | void _ _ ih => exact ih directory
  | up _ ih => exact ih (lookup_tail directory)
  | follow _ _ _ ih => exact ih (lookup_followed directory _)
  | enter _ found _ ih => exact ih found

/-- A way stays as long as what it can pass stays. -/
theorem kept (way : Way tree links here segments left there)
    (keeps : ∀ place entry, entry.isPassable = true → tree.lookup place = some entry →
      other.lookup place = some entry) :
    Way other links here segments left there := by
  induction way with
  | arrived => exact .arrived
  | void isVoid _ ih => exact .void isVoid ih
  | up _ ih => exact .up ih
  | follow plain found _ ih => exact .follow plain (keeps _ _ rfl found) ih
  | enter plain found _ ih => exact .enter plain (keeps _ _ rfl found) ih

theorem left_le (way : Way tree links here segments left there) : left ≤ links := by
  induction way with
  | arrived => exact Nat.le_refl _
  | void _ _ ih => exact ih
  | up _ ih => exact ih
  | follow _ _ _ ih => exact Nat.le_succ_of_le ih
  | enter _ _ _ ih => exact ih

/-- A way on which no link was followed stays as long as the directories stay. -/
theorem kept_of_noLink (way : Way tree links here segments left there) (noLink : left = links)
    (keeps : ∀ place, tree.lookup place = some .directory →
      other.lookup place = some .directory) :
    Way other links here segments left there := by
  induction way with
  | arrived => exact .arrived
  | void isVoid _ ih => exact .void isVoid (ih noLink)
  | up _ ih => exact .up (ih noLink)
  | follow _ _ onward => exact absurd onward.left_le (by omega)
  | enter plain found _ ih => exact .enter plain (keeps _ found) (ih noLink)

theorem plain (way : Way tree links here segments left there)
    (proper : ∀ name ∈ segments, Path.IsProper name) : ∀ name ∈ segments, IsPlainName name := by
  induction segments generalizing links here with
  | nil => exact nofun
  | cons name segments ih =>
      have first := proper name List.mem_cons_self
      have others (other : String) (isMember : other ∈ segments) : Path.IsProper other :=
        proper other (List.mem_cons_of_mem _ isMember)
      have both (plain : IsPlainName name) {middle : Place} {between : Nat}
          (rest : Way tree between middle segments left there) :
          ∀ other ∈ name :: segments, IsPlainName other := by
        simpa using ⟨plain, ih rest others⟩
      cases way with
      | void isVoid => exact absurd (isVoid.symm.trans first.notVoid) (by simp)
      | up => exact absurd rfl first.notUp
      | follow plain _ onward =>
          obtain ⟨between, middle, -, rest⟩ := onward.split
          exact both plain rest
      | enter plain _ onward => exact both plain onward

theorem names_iff :
    Way tree links here (segments.filter fun segment => !Path.isVoid segment) left there ↔
      Way tree links here segments left there := by
  induction segments generalizing links here with
  | nil => rfl
  | cons segment segments ih =>
      by_cases isVoid : Path.isVoid segment = true
      · rw [List.filter_cons_of_neg (by simp [isVoid]), ih]
        constructor
        · exact .void isVoid
        · intro way
          cases way with
          | void _ onward => exact onward
          | up => cases isVoid
          | follow plain => exact absurd isVoid plain.not_void
          | enter plain => exact absurd isVoid plain.not_void
      · rw [List.filter_cons_of_pos (by simp [isVoid])]
        -- A link puts the segments of its target before the rest, which is changed alone.
        constructor <;>
        · intro way
          cases way with
          | void isVoid' => exact absurd isVoid' isVoid
          | up onward => exact .up (by simpa only [ih] using onward)
          | enter plain found onward => exact .enter plain found (by simpa only [ih] using onward)
          | follow plain found onward =>
              obtain ⟨between, middle, target, rest⟩ := onward.split
              exact .follow plain found (target.append (by simpa only [ih] using rest))

/-- There is only one way along some segments. -/
theorem unique {otherLeft : Nat} {otherThere : Place}
    (one : Way tree links here segments left there)
    (two : Way tree links here segments otherLeft otherThere) :
    left = otherLeft ∧ there = otherThere := by
  induction one with
  | arrived =>
      cases two
      exact ⟨rfl, rfl⟩
  | void isVoid _ ih =>
      cases two with
      | void _ onward => exact ih onward
      | up => cases isVoid
      | follow plain => exact absurd isVoid plain.not_void
      | enter plain => exact absurd isVoid plain.not_void
  | up _ ih =>
      cases two with
      | void isVoid => cases isVoid
      | up onward => exact ih onward
      | follow plain => exact absurd rfl plain.not_up
      | enter plain => exact absurd rfl plain.not_up
  | follow plain found _ ih =>
      cases two with
      | void isVoid => exact absurd isVoid plain.not_void
      | up => exact absurd rfl plain.not_up
      | follow _ again onward =>
          cases found.symm.trans again
          exact ih onward
      | enter _ again => cases found.symm.trans again
  | enter plain found _ ih =>
      cases two with
      | void isVoid => exact absurd isVoid plain.not_void
      | up => exact absurd rfl plain.not_up
      | follow _ again => cases found.symm.trans again
      | enter _ _ onward => exact ih onward

/-- A walk goes a way to its end, and from there along the names that are left. -/
theorem walk (way : Way tree links here first left there) (purpose : Purpose) {name : String}
    (some : name ≠ "") (rest : List String) :
    walk tree purpose links here (first ++ name :: rest) =
      walk tree purpose left there (name :: rest) := by
  have notBlank (front : List String) : (front ++ name :: rest).all (· = "") = false := by
    simp [some]
  induction way with
  | arrived => rfl
  | void isVoid _ ih =>
      rw [List.cons_append, walk_void isVoid]
      exact ih
  | up _ ih =>
      rw [List.cons_append, walk_up]
      exact ih
  | follow plain found _ ih =>
      rw [List.cons_append, walk_follow plain (by simp [notBlank]) found (by simp [notBlank]),
        ← List.append_assoc]
      exact ih
  | enter plain found _ ih =>
      rw [List.cons_append, walk_enter plain (by simp [notBlank]) found (by simp [notBlank])]
      exact ih

theorem walk_content (way : Way tree links here segments left there)
    (directory : tree.lookup here = some .directory) :
    FileSystem.walk tree .content links here segments = .ok (.present there .directory) := by
  induction way with
  | arrived => exact walk_here directory
  | void isVoid _ ih =>
      rw [walk_void isVoid]
      exact ih directory
  | up _ ih =>
      rw [walk_up]
      exact ih (lookup_tail directory)
  | follow plain found _ ih =>
      rw [walk_follow plain (by simp) found (by simp)]
      exact ih (lookup_followed directory _)
  | enter plain found _ ih =>
      rw [walk_enter plain (by simp) found (by simp)]
      exact ih found

end Way

variable {tree : Tree} {links : Nat} {here : Place}

/-- What is found to be a directory is at the end of a way. -/
theorem way_of_walk {segments : List String} {there : Place}
    (found : walk tree .content links here segments = .ok (.present there .directory)) :
    ∃ left, Way tree links here segments left there := by
  fun_induction walk tree .content links here segments with
  | case1 =>
      cases found
      exact ⟨_, .arrived⟩
  | case3 _ _ _ _ isVoid ih =>
      obtain ⟨left, onward⟩ := ih found
      exact ⟨left, .void isVoid onward⟩
  | case4 _ _ _ _ ih =>
      obtain ⟨left, onward⟩ := ih found
      exact ⟨left, .up onward⟩
  | case11 _ _ _ notVoid notUp _ fits _ isLink _ _ ih =>
      obtain ⟨left, onward⟩ := ih found
      exact ⟨left, .follow ⟨notVoid, notUp, fits⟩ isLink onward⟩
  | case13 _ _ _ _ notVoid notUp _ fits isDirectory _ ih =>
      obtain ⟨left, onward⟩ := ih found
      exact ⟨left, .enter ⟨notVoid, notUp, fits⟩ isDirectory onward⟩
  | case14 _ _ _ _ _ _ _ _ _ _ notDirectory =>
      cases found
      exact absurd rfl notDirectory
  | case2 | case5 | case6 | case7 | case8 | case9 | case10 | case12 | case15 => simp_all

/-- Whatever is found behind some segments, they are the way to a directory. -/
theorem way_of_walk_append {purpose : Purpose} {first rest : List String} {name : String}
    {target : Target} (some : name ≠ "")
    (found : walk tree purpose links here (first ++ name :: rest) = .ok target) :
    ∃ left there, Way tree links here first left there := by
  have notBlank (front : List String) : ¬ (front ++ name :: rest).all (· = "") = true := by
    simp [some]
  have notEmpty (front : List String) : front ++ name :: rest ≠ [] := by simp
  generalize written : first ++ name :: rest = segments at found
  fun_induction walk tree purpose links here segments generalizing first with
  | case1 => exact absurd written (notEmpty first)
  | case3 _ _ _ _ isVoid ih =>
      rcases List.append_eq_cons_iff.mp written with ⟨rfl, -⟩ | ⟨first, rfl, rfl⟩
      · exact ⟨_, _, .arrived⟩
      · obtain ⟨left, there, onward⟩ := ih rfl found
        exact ⟨left, there, .void isVoid onward⟩
  | case4 _ _ _ _ ih =>
      rcases List.append_eq_cons_iff.mp written with ⟨rfl, -⟩ | ⟨first, rfl, rfl⟩
      · exact ⟨_, _, .arrived⟩
      · obtain ⟨left, there, onward⟩ := ih rfl found
        exact ⟨left, there, .up onward⟩
  | case11 _ _ _ notVoid notUp _ fits _ isLink _ _ ih =>
      rcases List.append_eq_cons_iff.mp written with ⟨rfl, -⟩ | ⟨first, rfl, rfl⟩
      · exact ⟨_, _, .arrived⟩
      · obtain ⟨left, there, onward⟩ := ih (List.append_assoc ..) found
        exact ⟨left, there, .follow ⟨notVoid, notUp, fits⟩ isLink onward⟩
  | case13 _ _ _ _ notVoid notUp _ fits isDirectory _ ih =>
      rcases List.append_eq_cons_iff.mp written with ⟨rfl, -⟩ | ⟨first, rfl, rfl⟩
      · exact ⟨_, _, .arrived⟩
      · obtain ⟨left, there, onward⟩ := ih rfl found
        exact ⟨left, there, .enter ⟨notVoid, notUp, fits⟩ isDirectory onward⟩
  | case7 _ _ _ _ _ _ _ _ _ blank =>
      rcases List.append_eq_cons_iff.mp written with ⟨rfl, -⟩ | ⟨first, rfl, rfl⟩
      · exact ⟨_, _, .arrived⟩
      · exact absurd blank (notBlank first)
  | case9 _ _ _ _ _ _ _ _ _ _ stays =>
      rcases List.append_eq_cons_iff.mp written with ⟨rfl, -⟩ | ⟨first, rfl, rfl⟩
      · exact ⟨_, _, .arrived⟩
      · rcases stays with ⟨-, ends⟩ | ⟨-, blank⟩
        · exact absurd ends (notEmpty first)
        · exact absurd blank (notBlank first)
  | case12 _ _ _ _ _ _ _ _ _ stays =>
      rcases List.append_eq_cons_iff.mp written with ⟨rfl, -⟩ | ⟨first, rfl, rfl⟩
      · exact ⟨_, _, .arrived⟩
      · exact absurd stays.2 (notBlank first)
  | case14 _ _ _ _ _ _ _ _ _ _ _ _ ends =>
      rcases List.append_eq_cons_iff.mp written with ⟨rfl, -⟩ | ⟨first, rfl, rfl⟩
      · exact ⟨_, _, .arrived⟩
      · rcases ends with ends | ⟨-, blank⟩
        · exact absurd ends (notEmpty first)
        · exact absurd blank (notBlank first)
  | case2 | case5 | case6 | case8 | case10 | case15 => cases found

/-- The free name at the end of some segments is the end of their way as soon as a
directory is there. -/
theorem way_of_walk_absent {other : Tree} {purpose : Purpose} {segments : List String}
    {place : Place} {slash : Bool}
    (found : walk tree purpose links here segments = .ok (.absent place slash))
    (there : other.lookup place = some .directory)
    (keeps : ∀ passed entry, entry.isPassable = true → tree.lookup passed = some entry →
      other.lookup passed = some entry) :
    ∃ left, Way other links here segments left place := by
  fun_induction walk tree purpose links here segments with
  | case3 _ _ _ _ isVoid ih =>
      obtain ⟨left, onward⟩ := ih found
      exact ⟨left, .void isVoid onward⟩
  | case4 _ _ _ _ ih =>
      obtain ⟨left, onward⟩ := ih found
      exact ⟨left, .up onward⟩
  | case7 links here segment rest notVoid notUp _ fits _ blank =>
      cases found
      have stays (blanks : List String) (blank : blanks.all (· = "") = true) :
          Way other links (segment :: here) blanks links (segment :: here) := by
        induction blanks with
        | nil => exact .arrived
        | cons first blanks ih =>
            simp only [List.all_cons, Bool.and_eq_true, decide_eq_true_eq] at blank
            exact .void (by simp [Path.isVoid, blank.1]) (ih blank.2)
      exact ⟨links, .enter ⟨notVoid, notUp, fits⟩ there (stays rest blank)⟩
  | case11 _ _ _ notVoid notUp _ fits _ isLink _ _ ih =>
      obtain ⟨left, onward⟩ := ih found
      exact ⟨left, .follow ⟨notVoid, notUp, fits⟩ (keeps _ _ rfl isLink) onward⟩
  | case13 _ _ _ _ notVoid notUp _ fits isDirectory _ ih =>
      obtain ⟨left, onward⟩ := ih found
      exact ⟨left, .enter ⟨notVoid, notUp, fits⟩ (keeps _ _ rfl isDirectory) onward⟩
  | case1 | case2 | case5 | case6 | case8 | case9 | case10 | case12 | case14 | case15 => cases found

theorem ne_link_of_walk {segments : List String} {place : Place} {entry : Entry}
    (directory : tree.lookup here = some .directory)
    (found : walk tree .content links here segments = .ok (.present place entry))
    (target : String) : entry ≠ .link target := by
  fun_induction walk tree .content links here segments with
  | case1 links here shown there =>
      cases found
      cases there.symm.trans directory
      simp
  | case3 _ _ _ _ _ ih => exact ih directory found
  | case4 _ _ _ _ ih => exact ih (lookup_tail directory) found
  | case11 _ _ _ _ _ _ _ _ _ _ _ ih => exact ih (lookup_followed directory _) found
  | case13 _ _ _ _ _ _ _ _ there _ ih => exact ih there found
  | case14 _ _ _ _ _ _ _ _ _ notLink =>
      cases found
      exact notLink target
  | case9 _ _ _ _ _ _ _ _ _ _ stays => simp at stays
  | case12 _ _ _ _ _ _ _ _ _ stays => simp at stays
  | case2 | case5 | case6 | case7 | case8 | case10 | case15 => cases found

/-- A walk ends at the same place as long as what can be passed stays and no link
comes to that place. -/
theorem walk_kept {other : Tree} {segments : List String} {place : Place} {entry later : Entry}
    (keeps : ∀ passed entry, entry.isPassable = true → tree.lookup passed = some entry →
      other.lookup passed = some entry)
    (found : walk tree .content links here segments = .ok (.present place entry))
    (there : other.lookup place = some later) (notLink : ∀ target, later ≠ .link target) :
    walk other .content links here segments = .ok (.present place later) := by
  fun_induction walk tree .content links here segments with
  | case1 =>
      cases found
      exact walk_here there
  | case3 _ _ _ _ isVoid ih =>
      rw [walk_void isVoid]
      exact ih found
  | case4 _ _ _ _ ih =>
      rw [walk_up]
      exact ih found
  | case11 _ _ _ notVoid notUp _ fits _ isLink follows _ ih =>
      rw [walk_follow ⟨notVoid, notUp, fits⟩ (by simp) (keeps _ _ rfl isLink) follows]
      exact ih found
  | case13 _ _ _ _ notVoid notUp _ fits isDirectory enters ih =>
      rw [walk_enter ⟨notVoid, notUp, fits⟩ (by simp) (keeps _ _ rfl isDirectory) enters]
      exact ih found
  | case14 _ _ _ _ notVoid notUp _ fits _ _ _ _ atEnd =>
      cases found
      obtain rfl | ⟨⟨⟩, -⟩ := atEnd
      exact walk_entry ⟨notVoid, notUp, fits⟩ there (.inl notLink)
  | case9 _ _ _ _ _ _ _ _ _ _ stays => simp at stays
  | case12 _ _ _ _ _ _ _ _ _ stays => simp at stays
  | case2 | case5 | case6 | case7 | case8 | case10 | case15 => cases found

/-- The way a path is written is no reason to refuse it. -/
structure Path.IsUsable (path : String) : Prop where
  noNul : '\x00' ∉ path.toList
  notEmpty : path ≠ ""
  short : ¬ pathLimit ≤ path.utf8ByteSize

instance (path : String) : Decidable (Path.IsUsable path) :=
  decidable_of_iff ('\x00' ∉ path.toList ∧ path ≠ "" ∧ ¬ pathLimit ≤ path.utf8ByteSize)
    ⟨fun ⟨noNul, notEmpty, short⟩ => ⟨noNul, notEmpty, short⟩,
      fun usable => ⟨usable.noNul, usable.notEmpty, usable.short⟩⟩

theorem Path.IsUsable.of_join {base name : String} (usable : IsUsable (Path.join base name))
    (relative : Path.isAbsolute name = false) (some : base ≠ "") : IsUsable base := by
  obtain ⟨rest, whole⟩ := Path.join_eq_append relative some
  rw [whole] at usable
  refine ⟨fun inBase => usable.noNul ?_, some, fun long => usable.short ?_⟩
  · simp [inBase]
  · rw [String.utf8ByteSize_append]
    omega

/-- Where the walk along a path starts. -/
def Place.origin (current : Place) (path : String) : Place :=
  if Path.isAbsolute path then [] else current

theorem Place.origin_joinAll {names : List String} (proper : ∀ name ∈ names, Path.IsProper name)
    (current : Place) (base : String) :
    current.origin (Path.joinAll base names) = current.origin base := by
  rw [Place.origin, Place.origin,
    Path.isAbsolute_joinAll fun name isMember => (proper name isMember).noSlash]

/-- These names lead from one directory to another. -/
def Tree.Reaches (tree : Tree) (start : Place) (names : List String) (place : Place) : Prop :=
  tree.lookup start = some .directory ∧ ∃ left, Way tree linkLimit start names left place

/-- The path, seen from a working directory, leads to this directory. -/
def Tree.Leads (tree : Tree) (current : Place) (path : String) (place : Place) : Prop :=
  tree.Reaches (current.origin path) (Path.names path) place

namespace Tree

variable {tree other : Tree} {current place : Place} {purpose : Purpose} {path : String}

theorem find_done {target : Target} (found : tree.find current purpose path = .ok target) :
    Path.IsUsable path ∧ tree.lookup (current.origin path) = some .directory ∧
      walk tree purpose linkLimit (current.origin path) (Path.segments path) = .ok target := by
  rw [find] at found
  split at found
  next => cases found
  next noNul =>
    split at found
    next => cases found
    next notEmpty =>
      split at found
      next => cases found
      next short =>
        change (if tree.lookup (current.origin path) = some .directory then _ else _) = _ at found
        by_cases directory : tree.lookup (current.origin path) = some .directory
        · rw [if_pos directory] at found
          exact ⟨⟨noNul, notEmpty, short⟩, directory, found⟩
        · rw [if_neg directory] at found
          cases found

theorem find_eq_walk (usable : Path.IsUsable path)
    (directory : tree.lookup (current.origin path) = some .directory) :
    tree.find current purpose path =
      walk tree purpose linkLimit (current.origin path) (Path.segments path) := by
  rw [find, if_neg usable.noNul, if_neg usable.notEmpty, if_neg usable.short]
  exact if_pos directory

theorem find_of_walk {start : Place} {segments : List String} {result : Except Cause Target}
    (usable : Path.IsUsable path) (origin : current.origin path = start)
    (written : Path.segments path = segments) (directory : tree.lookup start = some .directory)
    (ended : walk tree purpose linkLimit start segments = result) :
    tree.find current purpose path = result := by
  rw [find_eq_walk usable (origin ▸ directory), origin, written, ended]

/-- An absolute path is looked up by walking along its segments from the root. -/
theorem find_absolute {result : Except Cause Target} (segments : List String)
    (written : Path.IsUsable path ∧ Path.isAbsolute path = true ∧ Path.segments path = segments)
    (ended : walk tree purpose linkLimit [] segments = result) :
    tree.find current purpose path = result := by
  obtain ⟨usable, absolute, split⟩ := written
  exact find_of_walk usable (by rw [Place.origin, absolute]; rfl) split rfl ended

theorem ne_link_of_find {entry : Entry}
    (found : tree.find current .content path = .ok (.present place entry)) (target : String) :
    entry ≠ .link target := by
  obtain ⟨-, directory, walked⟩ := find_done found
  exact ne_link_of_walk directory walked target

/-- A path leads to the same place as long as what can be passed stays and no link comes
to that place. -/
theorem find_kept {entry later : Entry}
    (keeps : ∀ passed entry, entry.isPassable = true → tree.lookup passed = some entry →
      other.lookup passed = some entry)
    (found : tree.find current .content path = .ok (.present place entry))
    (there : other.lookup place = some later) (notLink : ∀ target, later ≠ .link target) :
    other.find current .content path = .ok (.present place later) := by
  obtain ⟨usable, directory, walked⟩ := find_done found
  rw [find_eq_walk usable (keeps _ _ rfl directory)]
  exact walk_kept keeps walked there notLink

theorem leads_of_find (found : tree.find current .content path = .ok (.present place .directory)) :
    tree.Leads current path place := by
  obtain ⟨-, directory, walked⟩ := find_done found
  obtain ⟨left, way⟩ := way_of_walk walked
  exact ⟨directory, left, Way.names_iff.mpr way⟩

namespace Reaches

variable {start : Place} {names : List String}

theorem lookup (reaches : tree.Reaches start names place) :
    tree.lookup place = some .directory := by
  obtain ⟨directory, left, way⟩ := reaches
  exact way.lookup_end directory

theorem unique {otherPlace : Place} (one : tree.Reaches start names place)
    (two : tree.Reaches start names otherPlace) : place = otherPlace := by
  obtain ⟨-, _, one⟩ := one
  obtain ⟨-, _, two⟩ := two
  exact (one.unique two).2

/-- Names lead to the same directory as long as what can be passed stays. -/
theorem kept (reaches : tree.Reaches start names place)
    (keeps : ∀ passed entry, entry.isPassable = true → tree.lookup passed = some entry →
      other.lookup passed = some entry) :
    other.Reaches start names place := by
  obtain ⟨directory, left, way⟩ := reaches
  exact ⟨keeps _ _ rfl directory, left, way.kept keeps⟩

end Reaches

namespace Leads

theorem find (leads : tree.Leads current path place) (usable : Path.IsUsable path) :
    tree.find current .content path = .ok (.present place .directory) := by
  obtain ⟨directory, left, way⟩ := leads
  rw [find_eq_walk usable directory]
  exact (Way.names_iff.mp way).walk_content directory

end Leads

variable {base name : String} {inner : List String}

/-- What is behind a path is found from the directory that the path leads to. -/
theorem Leads.find_joinAll (leads : tree.Leads current base place)
    (proper : ∀ other ∈ name :: inner, Path.IsProper other)
    (usable : Path.IsUsable (Path.joinAll base (name :: inner))) :
    ∃ left, ∀ purpose, tree.find current purpose (Path.joinAll base (name :: inner)) =
      walk tree purpose left place (name :: inner) := by
  obtain ⟨front, written, same⟩ := Path.segments_joinAll proper base
  have sameStart := Place.origin_joinAll proper current base
  obtain ⟨directory, left, way⟩ := leads
  rw [← same, Way.names_iff] at way
  refine ⟨left, fun purpose => ?_⟩
  rw [find_eq_walk usable (sameStart ▸ directory), sameStart, written]
  exact way.walk purpose (Path.ne_empty_of_isProper (proper name List.mem_cons_self)) inner

theorem leads_of_find_joinAll (proper : ∀ other ∈ name :: inner, Path.IsProper other)
    {target : Target}
    (found : tree.find current purpose (Path.joinAll base (name :: inner)) = .ok target) :
    ∃ place, tree.Leads current base place := by
  obtain ⟨front, written, same⟩ := Path.segments_joinAll proper base
  have sameStart := Place.origin_joinAll proper current base
  obtain ⟨-, directory, walked⟩ := find_done found
  rw [written, sameStart] at walked
  obtain ⟨left, place, way⟩ := way_of_walk_append
    (Path.ne_empty_of_isProper (proper name List.mem_cons_self)) walked
  refine ⟨place, sameStart ▸ directory, left, ?_⟩
  rw [← same, Way.names_iff]
  exact way

end Tree

end SnippetSandbox.FileSystem
