import SnippetSandbox.Proofs.FileSystem.Way

/-!
# Names below a directory

Where no link is on the way, names lead from a directory to the place that they spell.
So a path behind which there are names is about the directory that it leads to, and about
the place below that directory.
-/

namespace SnippetSandbox.FileSystem

/-- The first of some names spell a place on the way to the one that all of them spell. -/
theorem spelled_suffix {front names : List String} (isPrefix : front <+: names) (here : Place) :
    front.reverse ++ here <:+ names.reverse ++ here := by
  obtain ⟨rest, rfl⟩ := isPrefix
  exact ⟨rest.reverse, by simp⟩

/-- Names that spell the same place below names in a directory are the same. -/
theorem spelled_inj {name other : String} {names others : List String} {here : Place}
    (same : names.reverse ++ name :: here = others.reverse ++ other :: here) :
    name = other ∧ names = others := by
  have whole : (name :: names).reverse ++ here = (other :: others).reverse ++ here := by
    simpa using same
  exact List.cons.inj (List.reverse_inj.mp (List.append_cancel_right whole))

/-- No link is on the way down from a place along some names. -/
def Tree.IsPlainBelow (tree : Tree) (here : Place) (names : List String) : Prop :=
  ∀ front, front <+: names → front ≠ [] →
    ∀ target, tree.lookup (front.reverse ++ here) ≠ some (.link target)

namespace Tree.IsPlainBelow

variable {tree : Tree} {here : Place} {name : String} {names : List String}

theorem head (plain : tree.IsPlainBelow here (name :: names)) (target : String) :
    tree.lookup (name :: here) ≠ some (.link target) :=
  plain [name] (by simp) (by simp) target

theorem tail (plain : tree.IsPlainBelow here (name :: names)) :
    tree.IsPlainBelow (name :: here) names := by
  intro front isPrefix some target
  have whole := plain (name :: front) (by simpa using isPrefix) (by simp) target
  simpa using whole

theorem concat (plain : tree.IsPlainBelow here names)
    (noLink : ∀ target, tree.lookup (name :: (names.reverse ++ here)) ≠ some (.link target)) :
    tree.IsPlainBelow here (names ++ [name]) := by
  intro front isPrefix notNil
  rcases List.prefix_concat_iff.mp isPrefix with rfl | isPrefix
  · simpa using noLink
  · exact plain front isPrefix notNil

theorem singleton (noLink : ∀ target, tree.lookup (name :: here) ≠ some (.link target)) :
    tree.IsPlainBelow here [name] :=
  concat (fun _ isPrefix notNil => absurd (List.prefix_nil.mp isPrefix) notNil) noLink

end Tree.IsPlainBelow

section Descents

variable {tree : Tree} {links left : Nat} {here there : Place} {names : List String}

theorem isPlainName_of_isProper {name : String} (proper : Path.IsProper name)
    (fits : ¬ nameLimit < name.utf8ByteSize) : IsPlainName name :=
  ⟨by simp [proper.notVoid], proper.notUp, fits⟩

/-- A walk that gets anywhere from a proper name looks that name up. -/
theorem isPlainName_of_walk {purpose : Purpose} {name : String} {rest : List String}
    {target : Target} (proper : Path.IsProper name)
    (found : walk tree purpose links here (name :: rest) = .ok target) :
    IsPlainName name ∧ ¬ (purpose = .newFile ∧ rest ≠ [] ∧ rest.all (· = "") = true) := by
  rw [walk, if_neg (by simp [proper.notVoid]), if_neg proper.notUp] at found
  split at found
  next => cases found
  next noSlash =>
    split at found
    next => cases found
    next fits => exact ⟨isPlainName_of_isProper proper fits, noSlash⟩

theorem eq_nil_of_blank (proper : ∀ name ∈ names, Path.IsProper name)
    (blank : names.all (· = "") = true) : names = [] := by
  rw [List.eq_nil_iff_forall_not_mem]
  intro name isMember
  exact Path.ne_empty_of_isProper (proper name isMember)
    (of_decide_eq_true (List.all_eq_true.mp blank name isMember))

/-- A walk down ends at the place that its names spell, and all of them are short enough. -/
theorem walk_down {purpose : Purpose} {target : Target}
    (proper : ∀ name ∈ names, Path.IsProper name) (plain : tree.IsPlainBelow here names)
    (found : walk tree purpose links here names = .ok target) :
    target.place = names.reverse ++ here ∧ ∀ name ∈ names, IsPlainName name := by
  induction names generalizing here with
  | nil =>
      rw [walk] at found
      split at found <;> cases found
      exact ⟨rfl, List.forall_mem_nil _⟩
  | cons name names ih =>
      obtain ⟨first, others⟩ := List.forall_mem_cons.mp proper
      obtain ⟨isPlain, noSlash⟩ := isPlainName_of_walk first found
      -- The walk ends at this name only when none is left, else it goes down to the next.
      have ends (blank : names.all (· = "") = true) :
          name :: here = (name :: names).reverse ++ here ∧
            ∀ other ∈ name :: names, IsPlainName other := by
        obtain rfl := eq_nil_of_blank others blank
        simpa using isPlain
      rw [walk_plain isPlain noSlash] at found
      split at found
      next =>
        split at found
        next blank =>
          cases found
          exact ends blank
        next => cases found
      next target isLink => exact absurd isLink (plain.head target)
      next =>
        split at found
        next atEnd =>
          cases found
          exact ends atEnd.2
        next =>
          obtain ⟨atPlace, plainOthers⟩ := ih others plain.tail found
          refine ⟨by simpa using atPlace, ?_⟩
          simpa using ⟨isPlain, plainOthers⟩
      next =>
        split at found
        next atEnd =>
          cases found
          rcases atEnd with rfl | ⟨-, blank⟩
          · exact ends rfl
          · exact ends blank
        next => cases found

/-- A walk for the entry itself ends at its name, even when the entry is a link. -/
theorem walk_name {purpose : Purpose} {name : String} {target : Target}
    (itself : purpose = .entry ∨ purpose = .name) (proper : Path.IsProper name)
    (found : walk tree purpose links here [name] = .ok target) :
    target.place = name :: here := by
  obtain ⟨plain, -⟩ := isPlainName_of_walk proper found
  cases there : tree.lookup (name :: here) with
  | none =>
      cases (walk_free purpose plain there).symm.trans found
      rfl
  | some entry =>
      cases (walk_entry plain there (.inr itself)).symm.trans found
      rfl

/-- Names lead down to the place that they spell, when something but a link is there. -/
theorem walk_to {entry : Entry} (plain : ∀ name ∈ names, IsPlainName name)
    (there : tree.lookup (names.reverse ++ here) = some entry)
    (notLink : ∀ target, entry ≠ .link target) :
    walk tree .content links here names = .ok (.present (names.reverse ++ here) entry) := by
  induction names generalizing here with
  | nil => exact walk_here there
  | cons name names ih =>
      obtain ⟨first, others⟩ := List.forall_mem_cons.mp plain
      have sameSpelling : (name :: names).reverse ++ here = names.reverse ++ name :: here := by simp
      rw [sameSpelling] at there ⊢
      by_cases directory : tree.lookup (name :: here) = some .directory
      · rw [walk_enter first (by simp) directory (by simp)]
        exact ih others there
      · have last : names = [] := by
          cases names with
          | nil => rfl
          | cons second names =>
              refine absurd (Tree.lookup_of_suffix there (List.suffix_append _ _) ?_) directory
              intro same
              have lengths := congrArg List.length same
              simp at lengths
              omega
        subst last
        exact walk_entry first there (.inl notLink)

/-- A walk down without links sees nothing but what is below, however many links it may
still follow. -/
theorem walk_same {other : Tree} {purpose : Purpose} (proper : ∀ name ∈ names, Path.IsProper name)
    (plain : tree.IsPlainBelow here names)
    (same : ∀ inner, here <:+ inner → other.lookup inner = tree.lookup inner) :
    walk other purpose left here names = walk tree purpose links here names := by
  induction names generalizing here with
  | nil => rw [walk, walk, same here (List.suffix_refl _)]
  | cons name names ih =>
      have first := proper name List.mem_cons_self
      have others : ∀ next ∈ names, Path.IsProper next :=
        fun next isMember => proper next (List.mem_cons_of_mem _ isMember)
      have deeper := ih others plain.tail fun inner isInside =>
        same inner ((List.suffix_cons name here).trans isInside)
      have notVoid : ¬ Path.isVoid name = true := by simp [first.notVoid]
      rw [walk, walk, if_neg notVoid, if_neg notVoid, if_neg first.notUp, if_neg first.notUp,
        same _ (List.suffix_cons name here), deeper]
      cases there : tree.lookup (name :: here) with
      | none => rfl
      | some entry =>
          cases entry with
          | link target => exact absurd there (plain.head target)
          | _ => rfl

theorem Way.down (way : Way tree links here names left there)
    (proper : ∀ name ∈ names, Path.IsProper name) (plain : tree.IsPlainBelow here names) :
    there = names.reverse ++ here := by
  induction names generalizing here with
  | nil =>
      cases way
      rfl
  | cons name names ih =>
      have first := proper name List.mem_cons_self
      cases way with
      | void isVoid => exact absurd (isVoid.symm.trans first.notVoid) (by simp)
      | up => exact absurd rfl first.notUp
      | follow _ isLink => exact absurd isLink (plain.head _)
      | enter _ _ onward =>
          have others := ih onward (fun other isMember =>
            proper other (List.mem_cons_of_mem _ isMember)) plain.tail
          simpa using others

theorem Way.to (links : Nat) (plain : ∀ name ∈ names, IsPlainName name)
    (directory : tree.lookup (names.reverse ++ here) = some .directory) :
    Way tree links here names links (names.reverse ++ here) := by
  induction names generalizing here with
  | nil => exact .arrived
  | cons name names ih =>
      have spelling : (name :: names).reverse ++ here = names.reverse ++ name :: here := by simp
      rw [spelling] at directory ⊢
      have entered : tree.lookup (name :: here) = some .directory := by
        by_cases same : name :: here = names.reverse ++ name :: here
        · rw [same, directory]
        · exact Tree.lookup_of_suffix directory (List.suffix_append _ _) same
      exact .enter (plain name List.mem_cons_self) entered
        (ih (fun other isMember => plain other (List.mem_cons_of_mem _ isMember)) directory)

end Descents

namespace Tree.Reaches

variable {tree : Tree} {start ground place : Place} {front names : List String}

/-- What is reached by further names is at the place that these names spell. -/
theorem down (reaches : tree.Reaches start front ground)
    (proper : ∀ name ∈ names, Path.IsProper name) (plain : tree.IsPlainBelow ground names)
    (further : tree.Reaches start (front ++ names) place) :
    place = names.reverse ++ ground ∧ ∀ name ∈ names, IsPlainName name := by
  obtain ⟨_, _, way⟩ := further
  obtain ⟨between, middle, one, two⟩ := way.split
  obtain ⟨-, _, again⟩ := reaches
  obtain ⟨rfl, rfl⟩ := one.unique again
  exact ⟨two.down proper plain, two.plain proper⟩

theorem below (reaches : tree.Reaches start front ground) (plain : ∀ name ∈ names, IsPlainName name)
    (directory : tree.lookup (names.reverse ++ ground) = some .directory) :
    tree.Reaches start (front ++ names) (names.reverse ++ ground) := by
  obtain ⟨starts, left, way⟩ := reaches
  exact ⟨starts, left, way.append (.to left plain directory)⟩

end Tree.Reaches

namespace Tree.Leads

variable {tree : Tree} {current here : Place} {base : String} {names : List String}

/-- What is found behind a path is at the place that the names behind it spell. -/
theorem find_below (leads : tree.Leads current base here) (some : names ≠ [])
    (proper : ∀ name ∈ names, Path.IsProper name) (plain : tree.IsPlainBelow here names)
    {purpose : Purpose} {target : Target}
    (found : tree.find current purpose (Path.joinAll base names) = .ok target) :
    target.place = names.reverse ++ here ∧ ∀ name ∈ names, IsPlainName name := by
  cases names with
  | nil => exact absurd rfl some
  | cons name names =>
      obtain ⟨left, walks⟩ := leads.find_joinAll proper (find_done found).1
      exact walk_down proper plain (walks purpose ▸ found)

/-- The entry with a name in a directory is found behind the path to the directory. -/
theorem find_name (leads : tree.Leads current base here) {name : String}
    (proper : Path.IsProper name) {purpose : Purpose} (itself : purpose = .entry ∨ purpose = .name)
    {target : Target} (found : tree.find current purpose (Path.join base name) = .ok target) :
    target.place = name :: here := by
  have properNames : ∀ other ∈ [name], Path.IsProper other := by simpa using proper
  have behind : tree.find current purpose (Path.joinAll base [name]) = .ok target := found
  obtain ⟨left, walks⟩ := leads.find_joinAll properNames (find_done behind).1
  exact walk_name itself proper (walks purpose ▸ behind)

/-- What is at a place below a directory is found behind the path to the directory. -/
theorem find_present (leads : tree.Leads current base here) (some : names ≠ [])
    (proper : ∀ name ∈ names, Path.IsProper name) (plain : ∀ name ∈ names, IsPlainName name)
    (usable : Path.IsUsable (Path.joinAll base names)) {entry : Entry}
    (there : tree.lookup (names.reverse ++ here) = Option.some entry)
    (notLink : ∀ target, entry ≠ .link target) :
    tree.find current .content (Path.joinAll base names) =
      .ok (.present (names.reverse ++ here) entry) := by
  cases names with
  | nil => exact absurd rfl some
  | cons name names =>
      obtain ⟨left, walks⟩ := leads.find_joinAll proper usable
      rw [walks .content]
      exact walk_to plain there notLink

/-- A path with names behind it leads to the directory that the names spell. -/
theorem below (leads : tree.Leads current base here)
    (proper : ∀ name ∈ names, Path.IsProper name) (plain : ∀ name ∈ names, IsPlainName name)
    (directory : tree.lookup (names.reverse ++ here) = Option.some .directory) :
    tree.Leads current (Path.joinAll base names) (names.reverse ++ here) := by
  rw [Tree.Leads, Place.origin_joinAll proper, Path.names_joinAll proper]
  exact Reaches.below leads plain directory

end Tree.Leads

end SnippetSandbox.FileSystem
