import SnippetSandbox.Proofs.Workspace.Anchored
import SnippetSandbox.Workspace.Ready

/-!
# Emptying the sandbox directory

Each removal clears one place in the sandbox directory: a file, a directory with all that is
in it, or a link but not what it leads to.  After the names in the directory have been gone
through nothing is left in it, and everything else is as it was.
-/

namespace SnippetSandbox

open FileSystem

namespace FileSystem

section Removals

variable {base name : String} {here : Place} {before after : Disk}

/-- What is removed behind the path to a directory is the entry with that name in it. -/
theorem removeFile_clears (leads : before.tree.Leads before.current base here)
    (proper : Path.IsProper name)
    (removed : removeFile (Path.join base name) before = (.ok (), after)) :
    after.current = before.current ∧ after.tree = before.tree.clear (name :: here) := by
  obtain ⟨place, entry, found, -, current, tree⟩ := removeFile_done removed
  obtain rfl : place = name :: here := leads.find_name proper (.inr rfl) found
  exact ⟨current, tree⟩

/-- A directory is removed with all that is in it when the path to the directory around it
does not go through it. -/
theorem removeTree_clears (leads : before.tree.Leads before.current base here)
    (stays : ∀ other : Tree,
      (∀ place, ¬ name :: here <:+ place → other.lookup place = before.tree.lookup place) →
        other.Leads before.current base here)
    (proper : Path.IsProper name)
    (removed : removeTree (Path.join base name) before = (.ok (), after)) :
    after.current = before.current ∧ after.tree = before.tree.clear (name :: here) := by
  obtain ⟨place, entry, found, current, cleared | ⟨rfl, gone⟩⟩ := removeTree_done removed
  · obtain rfl : place = name :: here := leads.find_name proper (.inl rfl) found
    exact ⟨current, cleared⟩
  · obtain rfl : place = name :: here := leads.find_name proper (.inl rfl) found
    have there : before.tree.lookup (name :: here) = some .directory := Tree.find_ends found
    have properNames : ∀ other ∈ [name], Path.IsProper other := by simpa using proper
    have noLink : before.tree.IsPlainBelow here [name] := .singleton (by simp [there])
    have plain : IsPlainName name :=
      (leads.find_below (by simp) properNames noLink found).2 name (by simp)
    -- The path still leads to the directory once it has been emptied.
    have emptied := stays (before.tree.put (name :: here) .directory) fun place apart =>
      before.tree.lookup_put .directory apart
    obtain ⟨left, walks⟩ := emptied.find_joinAll properNames (Tree.find_done found).1
    refine absurd (walks .entry) ?_
    rw [walk_entry plain (Tree.lookup_put_self _ _ leads.lookup) (.inr (.inl rfl))]
    exact gone _ _

end Removals

/-- In the second disk some of what was below a place is gone, and nothing else has changed. -/
structure Disk.Empties (place : Place) (before after : Disk) : Prop where
  current : after.current = before.current
  places : ∀ other, after.tree.lookup other = before.tree.lookup other ∨
    after.tree.lookup other = none ∧ place <:+ other ∧ other ≠ place

namespace Disk.Empties

variable {place : Place} {before after : Disk}

theorem refl (place : Place) (disk : Disk) : disk.Empties place disk :=
  ⟨rfl, fun _ => .inl rfl⟩

theorem trans {first second third : Disk} (one : first.Empties place second)
    (two : second.Empties place third) : first.Empties place third where
  current := two.current.trans one.current
  places other := by
    rcases two.places other with same | gone
    · rw [same]
      exact one.places other
    · exact .inr gone

theorem nextFault (place : Place) (disk : Disk) : disk.Empties place disk.nextFault.2 :=
  ⟨disk.nextFault_current, fun _ => .inl (by rw [disk.nextFault_tree])⟩

theorem clear {name : String} (directory : before.tree.lookup place = some .directory)
    (current : after.current = before.current)
    (tree : after.tree = before.tree.clear (name :: place)) : before.Empties place after where
  current := current
  places other := by
    rw [tree, before.tree.lookup_clear_eq directory]
    split
    next inside =>
      refine .inr ⟨rfl, (List.suffix_cons name place).trans inside, ?_⟩
      rintro rfl
      exact absurd inside.length_le (by simp)
    next => exact .inl rfl

theorem gone (empties : before.Empties place after) {other : Place}
    (missing : before.tree.lookup other = none) : after.tree.lookup other = none := by
  rcases empties.places other with same | ⟨missing, -⟩
  · exact same.trans missing
  · exact missing

theorem lookup_place (empties : before.Empties place after) :
    after.tree.lookup place = before.tree.lookup place := by
  rcases empties.places place with same | ⟨-, -, different⟩
  · exact same
  · exact absurd rfl different

theorem keepsOutside (empties : before.Empties place after) : before.KeepsOutside place after where
  current := empties.current
  outside other isOutside := by
    rcases empties.places other with same | ⟨-, inside, -⟩
    · exact .inl same
    · exact absurd inside isOutside
  directory isDirectory := empties.lookup_place.trans isDirectory

theorem wellNamed (empties : before.Empties place after) (named : before.tree.IsWellNamed) :
    after.tree.IsWellNamed := by
  intro other entry found
  rcases empties.places other with same | ⟨missing, -⟩
  · exact named other entry (same.symm.trans found)
  · cases missing.symm.trans found

end Disk.Empties

theorem Tree.lookup_none_of_names {tree : Tree} {place : Place}
    (noNames : ∀ name, tree.lookup (name :: place) = none) {other : Place}
    (inside : place <:+ other) (different : other ≠ place) : tree.lookup other = none := by
  obtain ⟨front, rfl⟩ := inside
  rcases List.eq_nil_or_concat front with rfl | ⟨front, name, rfl⟩
  · exact absurd rfl different
  · rw [List.concat_append] at different ⊢
    cases front with
    | nil => exact noNames name
    | cons first front =>
        have empty : tree.lookup (name :: place) ≠ some .directory := by simp [noNames]
        refine Tree.lookup_below empty (List.suffix_append _ _) fun same => ?_
        have lengths := congrArg List.length same
        simp at lengths
        omega

end FileSystem

namespace Workspace

variable {root : String} {ground : Place} {back : List String} {before after : Disk}

/-- The path of the sandbox directory does not pass what is in it. -/
theorem IsAnchored.leadsWithout (anchored : IsAnchored root ground back before)
    (plain : ∀ name ∈ sandboxNames back, IsPlainName name)
    (directory : before.tree.lookup (sandboxPlace ground back) = some .directory) {name : String}
    {other : Tree} (same : ∀ place, ¬ name :: sandboxPlace ground back <:+ place →
      other.lookup place = before.tree.lookup place) :
    other.Leads before.current (inside root).sandboxDir (sandboxPlace ground back) := by
  have keeps : before.KeepsOutside (sandboxPlace ground back) { before with tree := other } :=
    .of_inside rfl same
  have there : other.lookup (sandboxPlace ground back) = some .directory :=
    keeps.directory directory
  exact (anchored.kept keeps (by simp [there])).leads plain there

/-- What is removed in the sandbox directory is what was there under the name, whether that was
a directory, a link or a file. -/
theorem removeInside_clears (anchored : IsAnchored root ground back before)
    (plain : ∀ name ∈ sandboxNames back, IsPlainName name)
    (directory : before.tree.lookup (sandboxPlace ground back) = some .directory) {name : String}
    (proper : Path.IsProper name)
    (removed : (do
      let path := Path.join (inside root).sandboxDir name
      if ← Task.ask (·.isDirectory path) then (removeTree path).reportedFor path
      else (removeFile path).reportedFor path : Task Unit) before = (.ok (), after)) :
    after.current = before.current ∧
      after.tree = before.tree.clear (name :: sandboxPlace ground back) := by
  have leads := anchored.leads plain directory
  obtain ⟨isDirectory, _, ⟨⟩, removed⟩ := Effect.bind_ok removed
  split at removed
  next =>
    exact removeTree_clears leads (fun _ => anchored.leadsWithout plain directory) proper
      (reportedFor_ok removed)
  next => exact removeFile_clears leads proper (reportedFor_ok removed)

/-- A sandbox directory that has been emptied was there, and it is empty. -/
theorem emptyDirectory_done (named : before.tree.IsWellNamed)
    (anchored : IsAnchored root ground back before)
    (done : emptyDirectory (inside root).sandboxDir before = (.ok (), after)) :
    before.tree.lookup (sandboxPlace ground back) = some .directory ∧
      before.Empties (sandboxPlace ground back) after ∧
      ∀ other, sandboxPlace ground back <:+ other → other ≠ sandboxPlace ground back →
        after.tree.lookup other = none := by
  obtain ⟨names, start, read, done⟩ := Effect.bind_ok done
  obtain ⟨place, found, rfl, rfl⟩ := readDirectory_done (reportedFor_ok read)
  obtain ⟨rfl, plain⟩ := anchored.place_eq (Tree.leads_of_find found)
  have directory : before.tree.lookup (sandboxPlace ground back) = some .directory :=
    Tree.find_ends found
  have begun := Disk.Empties.nextFault (sandboxPlace ground back) before
  have loop : before.nextFault.2.Empties (sandboxPlace ground back) after ∧
      ∀ name ∈ before.tree.names (sandboxPlace ground back),
        after.tree.lookup (name :: sandboxPlace ground back) = none := by
    have lasts (name : String) (first second : Disk)
        (empties : first.Empties (sandboxPlace ground back) second)
        (missing : first.tree.lookup (name :: sandboxPlace ground back) = none) :
        second.tree.lookup (name :: sandboxPlace ground back) = none :=
      empties.gone missing
    refine Effect.forM_ok (Disk.Empties.refl _) Disk.Empties.trans lasts ?_ done
    intro name isMember disk next reached removed
    obtain ⟨entry, there⟩ := Tree.mem_names_iff.mp isMember
    have proper : Path.IsProper name := named _ entry there name List.mem_cons_self
    have empties := begun.trans reached
    have here := empties.lookup_place.trans directory
    have anchoredHere := anchored.kept empties.keepsOutside (by simp [here])
    obtain ⟨current, tree⟩ := removeInside_clears anchoredHere plain here proper removed
    refine ⟨.clear here current tree, ?_⟩
    rw [tree]
    exact Tree.lookup_clear_self _ here
  obtain ⟨emptied, gone⟩ := loop
  have whole := begun.trans emptied
  refine ⟨directory, whole, fun other => Tree.lookup_none_of_names fun name => ?_⟩
  cases there : before.tree.lookup (name :: sandboxPlace ground back) with
  | none => exact whole.gone there
  | some entry => exact gone name (Tree.mem_names_iff.mpr ⟨entry, there⟩)

end Workspace

end SnippetSandbox
