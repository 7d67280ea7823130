import SnippetSandbox.FileSystem.Tree

/-!
# Look-ups in a changed tree

A change at a place shows at that place and below it and nowhere else: the
directories on the way to it stay directories, and every other entry stays the
same.  What was put at a place is found there, and what was cleared is gone.
-/

namespace SnippetSandbox.FileSystem

namespace Folder

theorem lookup_append (front back : Folder) (name : String) :
    (front ++ back).lookup name = (front.lookup name).or (back.lookup name) := by
  induction front with
  | nil => rfl
  | cons item others ih =>
      obtain ⟨first, node⟩ := item
      cases same : name == first <;> simp [List.lookup_cons, same, ih]

theorem lookup_without (inside : Folder) (removed name : String) :
    (inside.filter fun item => item.1 != removed).lookup name =
      if name = removed then none else inside.lookup name := by
  induction inside with
  | nil => simp
  | cons item others ih =>
      obtain ⟨first, node⟩ := item
      by_cases same : name = first
      · subst same
        by_cases kept : name = removed
        · simpa [kept] using ih
        · simp [kept]
      · have unequal : (name == first) = false := beq_eq_false_iff_ne.mpr same
        by_cases kept : first = removed
        · rw [List.filter_cons_of_neg (by simp [kept]), ih, List.lookup_cons, unequal]
        · rw [List.filter_cons_of_pos (by simp [kept]), List.lookup_cons, List.lookup_cons,
            unequal]
          exact ih

/-- A name is found as it was set, every other one as before. -/
theorem lookup_set (inside : Folder) (changed name : String) (node : Option Node) :
    (Folder.set inside changed node).lookup name =
      if name = changed then node else inside.lookup name := by
  rw [Folder.set, lookup_append, lookup_without]
  cases node with
  | none => simp
  | some node =>
      by_cases same : name = changed
      · simp [same]
      · have unequal : (name == changed) = false := beq_eq_false_iff_ne.mpr same
        simp [List.lookup_cons, same, unequal]

end Folder

/-- The node at the end of a way down from this one. -/
def Node.below? (node : Node) : List String → Option Node
  | [] => some node
  | name :: way => (node.child? name).bind fun child => child.below? way

theorem Node.below?_append (node : Node) (first second : List String) :
    node.below? (first ++ second) =
      (node.below? first).bind fun inner => inner.below? second := by
  induction first generalizing node with
  | nil => rfl
  | cons name first ih =>
      cases child : node.child? name <;> simp [Node.below?, child, ih]

theorem Folder.entry_below?_replace (node : Option Node) (way : List String)
    (inside : Folder) {other : List String} (apart : ¬ way <+: other) :
    ((Node.directory (Folder.replace node way inside)).below? other).map Node.entry =
      ((Node.directory inside).below? other).map Node.entry := by
  induction way generalizing inside other with
  | nil => exact absurd List.nil_prefix apart
  | cons name way ih =>
      cases other with
      | nil => simp [Node.below?, Node.entry]
      | cons first other =>
          cases way with
          | nil =>
              have different : first ≠ name := by
                rintro rfl
                exact apart (by simp)
              simp [Folder.replace, Node.below?, Node.child?, lookup_set, different]
          | cons next way =>
              rw [Folder.replace]
              split
              next deeper found =>
                by_cases same : first = name
                · subst same
                  have deeperApart : ¬ (next :: way) <+: other := by
                    simpa using apart
                  simp [Node.below?, Node.child?, lookup_set, found, ih deeper deeperApart]
                · simp [Node.below?, Node.child?, lookup_set, same]
              next => rfl

/-- At its place, a change inside a directory is found as it was made. -/
theorem Folder.below?_replace_self (node : Option Node) (way : List String) (name : String)
    (inside : Folder)
    (directory : ((Node.directory inside).below? way).map Node.entry = some .directory) :
    (Node.directory (Folder.replace node (way ++ [name]) inside)).below? (way ++ [name]) =
      node := by
  induction way generalizing inside with
  | nil => simp [Folder.replace, Node.below?, Node.child?, lookup_set]
  | cons first way ih =>
      cases found : inside.lookup first with
      | none => simp [Node.below?, Node.child?, found] at directory
      | some child =>
          simp only [Node.below?, Node.child?, found, Option.bind_some] at directory
          cases child with
          | directory deeper =>
              have rest := ih deeper directory
              cases shape : way ++ [name] with
              | nil => simp at shape
              | cons next others =>
                  rw [shape] at rest
                  simp [Folder.replace, shape, found, Node.below?, Node.child?, lookup_set]
                  simpa [Node.below?, Node.child?] using rest
          | _ => cases way <;> simp [Node.below?, Node.child?, Node.entry] at directory

namespace Tree

theorem node?_eq_below? (tree : Tree) (place : Place) :
    tree.node? place = (Node.directory tree.root).below? place.reverse := by
  induction place with
  | nil => rfl
  | cons name around ih =>
      rw [node?_cons, ih, List.reverse_cons, Node.below?_append]
      simp [Node.below?]

/-- Away from the place of a change, entries stay the same. -/
theorem lookup_replace (tree : Tree) (node : Option Node) {place other : Place}
    (apart : ¬ place <:+ other) :
    (tree.replace place node).lookup other = tree.lookup other := by
  rw [lookup, lookup, node?_eq_below?, node?_eq_below?, replace]
  apply Folder.entry_below?_replace
  rwa [List.reverse_prefix]

/-- At its place, a change inside a directory is found as it was made. -/
theorem node?_replace_self (tree : Tree) (node : Option Node) {name : String} {around : Place}
    (directory : tree.lookup around = some .directory) :
    (tree.replace (name :: around) node).node? (name :: around) = node := by
  rw [node?_eq_below?, replace, List.reverse_cons]
  apply Folder.below?_replace_self
  rwa [lookup, node?_eq_below?] at directory

theorem lookup_put (tree : Tree) (entry : Entry) {place other : Place}
    (apart : ¬ place <:+ other) : (tree.put place entry).lookup other = tree.lookup other :=
  tree.lookup_replace _ apart

theorem lookup_clear (tree : Tree) {place other : Place} (apart : ¬ place <:+ other) :
    (tree.clear place).lookup other = tree.lookup other :=
  tree.lookup_replace _ apart

theorem lookup_create (tree : Tree) (place other : Place) (content : ByteArray)
    (executable : Bool) :
    (tree.create place content executable).lookup other =
      (tree.put place (.file tree.nextIdentity content executable)).lookup other := by
  rw [lookup, lookup, node?_eq_below?, node?_eq_below?]
  rfl

theorem lookup_put_self (tree : Tree) (entry : Entry) {name : String} {around : Place}
    (directory : tree.lookup around = some .directory) :
    (tree.put (name :: around) entry).lookup (name :: around) = some entry := by
  rw [lookup, put, tree.node?_replace_self _ directory]
  simp

theorem lookup_clear_self (tree : Tree) {name : String} {around : Place}
    (directory : tree.lookup around = some .directory) :
    (tree.clear (name :: around)).lookup (name :: around) = none := by
  rw [lookup, clear, tree.node?_replace_self _ directory]
  rfl

theorem lookup_of_suffix {tree : Tree} {place other : Place} {entry : Entry}
    (found : tree.lookup other = some entry) (inside : place <:+ other)
    (different : place ≠ other) : tree.lookup place = some .directory := by
  induction other generalizing entry with
  | nil => exact absurd (List.suffix_nil.mp inside) different
  | cons name around ih =>
      rcases List.suffix_cons_iff.mp inside with same | further
      · exact absurd same different
      · have directory := lookup_around found
        by_cases same : place = around
        · rw [same]
          exact directory
        · exact ih directory further same

theorem lookup_below {tree : Tree} {place other : Place}
    (noDirectory : tree.lookup place ≠ some .directory) (inside : place <:+ other)
    (different : place ≠ other) : tree.lookup other = none := by
  rw [Option.eq_none_iff_forall_ne_some]
  intro entry found
  exact noDirectory (lookup_of_suffix found inside different)

theorem lookup_put_below (tree : Tree) (entry : Entry) {name : String} {around other : Place}
    (directory : tree.lookup around = some .directory) (inside : name :: around <:+ other)
    (different : name :: around ≠ other) :
    (tree.put (name :: around) entry).lookup other = none := by
  induction other with
  | nil => simp at inside
  | cons first others ih =>
      have further : name :: around <:+ others := by
        rcases List.suffix_cons_iff.mp inside with same | further
        · exact absurd same different
        · exact further
      rw [Option.eq_none_iff_forall_ne_some]
      intro found shown
      by_cases reached : name :: around = others
      · rw [← reached, lookup, node?_cons, put, tree.node?_replace_self _ directory] at shown
        cases entry <;> simp [Entry.node, Node.child?] at shown
      · have missing := ih further reached
        rw [lookup_around shown] at missing
        cases missing

theorem mem_names_iff {tree : Tree} {name : String} {place : Place} :
    name ∈ tree.names place ↔ ∃ entry, tree.lookup (name :: place) = some entry := by
  rw [names, lookup, node?_cons]
  cases tree.node? place with
  | none => simp
  | some node =>
      cases node with
      | directory inside =>
          have listed : name ∈ inside.map Prod.fst ↔ inside.lookup name ≠ none := by
            rw [Ne, List.lookup_eq_none_iff]
            simp
          rw [List.mem_mergeSort, listed, Option.bind_some, Node.child?]
          cases inside.lookup name <;> simp
      | _ => simp [Node.child?]

/-- What is listed for a node in a folder is listed for the folder. -/
theorem mem_folderEntries {inside : Folder} {name : String} {child : Node} {place : Place}
    {entry : Place × Entry} (isChild : inside.lookup name = some child)
    (listed : entry ∈ itemEntries place (name, child)) : entry ∈ folderEntries place inside := by
  induction inside with
  | nil => cases isChild
  | cons item others ih =>
      obtain ⟨first, other⟩ := item
      rw [folderEntries, List.mem_append]
      rw [List.lookup_cons] at isChild
      split at isChild
      next same =>
        cases isChild
        exact .inl (eq_of_beq same ▸ listed)
      next => exact .inr (ih isChild)

theorem mem_entriesInside {node inner : Node} {way : List String} (some : way ≠ [])
    (found : node.below? way = Option.some inner) (place : Place) :
    (way.reverse ++ place, inner.entry) ∈ node.entriesInside place := by
  induction way generalizing node place with
  | nil => exact absurd rfl some
  | cons name way ih =>
      obtain ⟨child, isChild, found⟩ := Option.bind_eq_some_iff.mp found
      have listed : (way.reverse ++ name :: place, inner.entry) ∈ itemEntries place (name, child) := by
        rw [itemEntries]
        by_cases last : way = []
        · subst last
          cases found
          exact List.mem_cons_self
        · exact List.mem_cons_of_mem _ (ih last found (name :: place))
      have spelled : (name :: way).reverse ++ place = way.reverse ++ name :: place := by simp
      rw [spelled]
      cases node with
      | directory inside => exact mem_folderEntries isChild listed
      | _ => cases isChild

theorem mem_entriesBelow {tree : Tree} {place : Place} {entry : Entry} (some : place ≠ [])
    (found : tree.lookup place = Option.some entry) : (place, entry) ∈ tree.entriesBelow [] := by
  rw [lookup, node?_eq_below?] at found
  obtain ⟨node, below, rfl⟩ := Option.map_eq_some_iff.mp found
  have listed := mem_entriesInside (by simpa using some) below []
  rw [List.reverse_reverse, List.append_nil] at listed
  exact listed

/-- Everything about a tree in which an entry was put inside a directory. -/
theorem lookup_put_eq (tree : Tree) (entry : Entry) {name : String} {around : Place}
    (directory : tree.lookup around = some .directory) (other : Place) :
    (tree.put (name :: around) entry).lookup other =
      if other = name :: around then some entry
      else if name :: around <:+ other then none
      else tree.lookup other := by
  split
  next same => exact same ▸ tree.lookup_put_self entry directory
  next different =>
    split
    next inside => exact tree.lookup_put_below entry directory inside (Ne.symm different)
    next apart => exact tree.lookup_put entry apart

/-- Everything about a tree in which a place inside a directory was cleared. -/
theorem lookup_clear_eq (tree : Tree) {name : String} {around : Place}
    (directory : tree.lookup around = some .directory) (other : Place) :
    (tree.clear (name :: around)).lookup other =
      if name :: around <:+ other then none else tree.lookup other := by
  have cleared : (tree.clear (name :: around)).lookup (name :: around) = none :=
    tree.lookup_clear_self directory
  split
  next inside =>
    by_cases same : name :: around = other
    · exact same ▸ cleared
    · exact lookup_below (by simp [cleared]) inside same
  next apart => exact tree.lookup_clear apart

end Tree

end SnippetSandbox.FileSystem
