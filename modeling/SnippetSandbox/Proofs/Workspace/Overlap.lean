import SnippetSandbox.Proofs.Workspace.Additions
import SnippetSandbox.Proofs.Workspace.Reset

/-!
# Seeds that overlap the sandbox directory

A reset empties the sandbox directory before it looks at the seed, and the seed is copied out of
the tree into which it is copied.  So a seed in the sandbox directory is gone before it could be
copied, and the copy of a directory around the sandbox directory has itself to be copied, with no
end.  Neither reset succeeds.  The source directory alone can be its own seed, because it is
empty when it is read.
-/

namespace SnippetSandbox

open FileSystem

namespace Workspace

/-- The path of a seed leads to a directory in and below which are only directories and files.
It does so without passing anything in the sandbox directory, except that the names at its end
may lead down there. -/
structure IsPlainSeed (path : String) (base : Place) (inner : List String) (sandbox : Place)
    (disk : Disk) : Prop where
  proper : ∀ name ∈ inner, Path.IsProper name
  reaches : ∃ front, Path.names path = front ++ inner ∧ ∀ other : Tree,
    (∀ passed entry, entry.isPassable = true → (sandbox <:+ passed → passed = sandbox) →
      disk.tree.lookup passed = some entry → other.lookup passed = some entry) →
    other.Reaches (disk.current.origin path) front base
  directory : disk.tree.lookup (inner.reverse ++ base) = some .directory
  plain : ∀ place entry, inner.reverse ++ base <:+ place → disk.tree.lookup place = some entry →
    entry = .directory ∨ ∃ identity content executable, entry = .file identity content executable

/-- A seed overlaps the sandbox directory when it is around it or in it.  The source directory is
an exception, because whatever is in it is gone when it is read. -/
def Overlaps (source sandbox : Place) : Prop :=
  source <:+ sandbox ∨ sandbox <:+ source ∧ source ≠ "sources" :: sandbox

variable {path destination root : String} {base ground : Place} {inner back : List String}
variable {before made after : Disk}

namespace IsPlainSeed

variable {sandbox : Place}

theorem noLink (seeded : IsPlainSeed path base inner sandbox before) {place : Place}
    (isInside : inner.reverse ++ base <:+ place) (target : String) :
    before.tree.lookup place ≠ some (.link target) := by
  intro isLink
  rcases seeded.plain place _ isInside isLink with same | ⟨_, _, _, same⟩ <;> cases same

theorem passes (seeded : IsPlainSeed path base inner sandbox before) {front : List String}
    (isPrefix : front <+: inner) : before.tree.lookup (front.reverse ++ base) = some .directory := by
  by_cases whole : front.reverse ++ base = inner.reverse ++ base
  · rw [whole, seeded.directory]
  · exact Tree.lookup_of_suffix seeded.directory (spelled_suffix isPrefix base) whole

/-- Where nothing has changed outside of the sandbox directory, the path leads as far as it does
without its last names. -/
theorem reaches_kept (seeded : IsPlainSeed path base inner sandbox before)
    (keeps : before.KeepsOutside sandbox after)
    (noLink : ∀ target, before.tree.lookup sandbox ≠ some (.link target)) :
    ∃ front, Path.names path = front ++ inner ∧
      after.tree.Reaches (after.current.origin path) front base := by
  obtain ⟨front, written, reaches⟩ := seeded.reaches
  refine ⟨front, written, ?_⟩
  rw [keeps.current]
  refine reaches after.tree fun passed entry passable notBelow there => ?_
  by_cases inside : sandbox <:+ passed
  · obtain rfl := notBelow inside
    cases entry with
    | directory => exact keeps.directory there
    | link target => exact absurd there (noLink target)
    | file | device => cases passable
  · exact keeps.keeps inside there

/-- If no link is in the sandbox directory either, the path leads to where it led to before, when
it leads anywhere. -/
theorem leads_of_find (seeded : IsPlainSeed path base inner sandbox before)
    (keeps : before.KeepsOutside sandbox after)
    (noLink : ∀ target, before.tree.lookup sandbox ≠ some (.link target))
    (noLinkInside : ∀ place, sandbox <:+ place → ∀ target,
      after.tree.lookup place ≠ some (.link target)) {place : Place}
    (found : after.find path = .ok (.present place .directory)) :
    after.tree.Leads after.current path (inner.reverse ++ base) := by
  have plain : after.tree.IsPlainBelow base inner := by
    intro front isPrefix _ target
    by_cases inside : sandbox <:+ front.reverse ++ base
    · exact noLinkInside _ inside target
    · simp [keeps.keeps inside (seeded.passes isPrefix)]
  obtain ⟨front, written, reaches⟩ := seeded.reaches_kept keeps noLink
  have leads : after.tree.Leads after.current path place := Tree.leads_of_find found
  rw [Tree.Leads, written] at leads ⊢
  obtain ⟨rfl, -⟩ := reaches.down seeded.proper plain leads
  exact leads

/-- The path leads to where it led to before, when a directory is still there. -/
theorem leads_kept (seeded : IsPlainSeed path base inner sandbox before)
    (keeps : before.KeepsOutside sandbox after)
    (noLink : ∀ target, before.tree.lookup sandbox ≠ some (.link target))
    (plain : ∀ name ∈ inner, IsPlainName name)
    (there : after.tree.lookup (inner.reverse ++ base) = some .directory) :
    after.tree.Leads after.current path (inner.reverse ++ base) := by
  obtain ⟨front, written, reaches⟩ := seeded.reaches_kept keeps noLink
  rw [Tree.Leads, written]
  exact reaches.below plain there

end IsPlainSeed

section Within

variable {source : Place} {cycle names : List String}

/-- One path leads to a directory without links, another one further down along some names. -/
structure IsWithin (path destination : String) (source : Place) (cycle : List String)
    (disk : Disk) : Prop where
  leads : disk.tree.Leads disk.current path source
  within : disk.tree.Leads disk.current destination (cycle.reverse ++ source)
  noLink : ∀ place, source <:+ place → ∀ target, disk.tree.lookup place ≠ some (.link target)

namespace IsWithin

theorem extended (isWithin : IsWithin path destination source cycle before)
    (adds : before.Extends after) : IsWithin path destination source cycle after where
  leads := by
    rw [Tree.Leads, adds.builds.current]
    exact Tree.Reaches.kept isWithin.leads adds.builds.keeps
  within := by
    rw [Tree.Leads, adds.builds.current]
    exact Tree.Reaches.kept isWithin.within adds.builds.keeps
  noLink place isInside target := (adds.builds.places place).ne_link (isWithin.noLink place isInside target)

/-- Down to a directory of the copy there are directories, seen from the source as well. -/
theorem lookup_source (there : before.tree.lookup (names.reverse ++ (cycle.reverse ++ source)) =
      some .directory) {front : List String} (isPrefix : front <+: cycle ++ names) :
    before.tree.lookup (front.reverse ++ source) = some .directory := by
  have whole : (cycle ++ names).reverse ++ source =
      names.reverse ++ (cycle.reverse ++ source) := by simp
  have inside := spelled_suffix isPrefix source
  rw [whole] at inside
  by_cases same : front.reverse ++ source = names.reverse ++ (cycle.reverse ++ source)
  · rw [same, there]
  · exact Tree.lookup_of_suffix there inside same

/-- What is found behind the path of the source is at the place that the names spell. -/
theorem place_eq (isWithin : IsWithin path destination source cycle before)
    (proper : ∀ name ∈ names, Path.IsProper name) {place : Place} {entry : Entry}
    (found : before.find (Path.joinAll path names) = .ok (.present place entry)) :
    place = names.reverse ++ source := by
  by_cases whole : names = []
  · subst whole
    exact congrArg Target.place
      (Except.ok.inj (found.symm.trans (isWithin.leads.find (Tree.find_done found).1)))
  · have plain : before.tree.IsPlainBelow source names :=
      fun _ _ _ target => isWithin.noLink _ (List.suffix_append _ _) target
    exact (isWithin.leads.find_below whole proper plain found).1

theorem lookup_made (isWithin : IsWithin path destination source cycle before)
    (proper : ∀ name ∈ names, Path.IsProper name) (notNil : names ≠ [])
    (done : makeDirectories (Path.joinAll destination names) before = (.ok (), made)) :
    made.tree.lookup (names.reverse ++ (cycle.reverse ++ source)) = some .directory := by
  have sameStart := Place.origin_joinAll proper before.current destination
  have plain : before.tree.IsPlainBelow (cycle.reverse ++ source) names := fun _ _ _ target =>
    isWithin.noLink _ ((List.suffix_append _ _).trans (List.suffix_append _ _)) target
  exact (Disk.AddsDirectories.makeDirectories_below (Path.names_joinAll proper destination)
    notNil (sameStart ▸ isWithin.within) proper plain done).2.2.1

end IsWithin

/-- Names that go round along a cycle go on with one more of its names. -/
theorem exists_next (notNil : cycle ≠ []) (goesRound : names <+: cycle ++ names) :
    ∃ next, names ++ [next] <+: cycle ++ names := by
  obtain ⟨rest, spelled⟩ := goesRound
  obtain ⟨next, rest, rfl⟩ : ∃ next others, rest = next :: others := by
    refine List.exists_cons_of_ne_nil fun last => notNil ?_
    have lengths := congrArg List.length spelled
    simpa [last] using lengths
  exact ⟨next, rest, by simpa using spelled⟩

/-- A directory is not copied into itself.  Whatever level the copy has got to, the names down to
it go round along the way from the source to the copy, so the next name is there in the source,
and it is a directory that has to be copied as well. -/
theorem copyTree_within (notNil : cycle ≠ []) {levels : Nat}
    (isWithin : IsWithin path destination source cycle before)
    (proper : ∀ name ∈ cycle ++ names, Path.IsProper name) (goesRound : names <+: cycle ++ names)
    (there : before.tree.lookup (names.reverse ++ (cycle.reverse ++ source)) = some .directory) :
    copyTree levels (Path.joinAll path names) (Path.joinAll destination names) before ≠
      (.ok (), after) := by
  induction levels generalizing names before after with
  | zero => nofun
  | succ levels ih =>
      intro done
      obtain ⟨listed, begun, read, done⟩ := Effect.bind_ok done
      obtain ⟨holder, found, rfl, rfl⟩ := readDirectory_done (reportedFor_ok read)
      obtain rfl := isWithin.place_eq
        (fun name isMember => proper name (List.mem_append_right _ isMember)) found
      -- The names continue along the way, and they go round with the next one, too.
      obtain ⟨next, longer⟩ := exists_next notNil goesRound
      have goesOn : names ++ [next] <+: cycle ++ (names ++ [next]) :=
        longer.trans ⟨[next], by simp⟩
      have properLonger : ∀ name ∈ cycle ++ (names ++ [next]), Path.IsProper name := by
        intro name isMember
        rw [← List.append_assoc, List.mem_append, List.mem_singleton] at isMember
        rcases isMember with isMember | rfl
        · exact proper name isMember
        · exact proper name (longer.subset (by simp))
      have properNames (name : String) (isMember : name ∈ names ++ [next]) : Path.IsProper name :=
        properLonger name (List.mem_append_right _ isMember)
      have isNext := IsWithin.lookup_source there longer
      have isListed : next ∈ before.tree.names (names.reverse ++ source) :=
        Tree.mem_names_iff.mpr ⟨.directory, by simpa using isNext⟩
      simp only [← Path.joinAll_concat] at done
      suffices loop : before.nextFault.2.Extends after ∧
          ∀ name ∈ before.tree.names (names.reverse ++ source), name ≠ next from
        loop.2 next isListed rfl
      have lasts (name : String) (first second : Disk) (_ : first.Extends second)
          (different : name ≠ next) : name ≠ next :=
        different
      refine Effect.forM_ok .refl .trans lasts ?_ done
      intro name _ disk later reached copied
      obtain ⟨isDirectory, _, asked, copied⟩ := Effect.bind_ok copied
      cases asked
      have here := isWithin.extended ((Disk.Extends.nextFault before).trans reached)
      have thereNow := ((Disk.Extends.nextFault before).trans reached).builds.keeps _ _ rfl there
      split at copied
      next =>
        obtain ⟨⟨⟩, between, makes, copied⟩ := Effect.bind_ok copied
        have adds := (Disk.Extends.makeDirectories _).states (reportedFor_ok makes)
        refine ⟨adds.trans ((extends_copyTree levels _ _).states copied), ?_⟩
        rintro rfl
        refine ih (here.extended adds) properLonger goesOn ?_ copied
        exact here.lookup_made properNames (by simp) (reportedFor_ok makes)
      next =>
        refine ⟨(Disk.Extends.copyFile _ _).states (reportedFor_ok copied), ?_⟩
        rintro rfl
        obtain ⟨identity, content, executable, isFile, -⟩ := copyFile_done (reportedFor_ok copied)
        obtain ⟨place, found⟩ := Disk.find_of_entryAt? isFile
        obtain rfl := here.place_eq properNames found
        have isDirectory := IsWithin.lookup_source thereNow longer
        cases (Tree.find_ends found).symm.trans isDirectory

end Within

section Resets

variable {cleared : Disk}

/-- What is in the sandbox directory once the source directory has been made. -/
theorem MakesInside.eq_directory (first : MakesInside root ground back "sources" cleared made)
    (vacant : IsVacant ground back cleared) {place : Place} {entry : Entry}
    (isInside : sandboxPlace ground back <:+ place) (there : made.tree.lookup place = some entry) :
    entry = .directory ∧
      (place = sandboxPlace ground back ∨ place = "sources" :: sandboxPlace ground back) := by
  by_cases isSandbox : place = sandboxPlace ground back
  · subst isSandbox
    cases there.symm.trans first.sandbox
    exact ⟨rfl, .inl rfl⟩
  · by_cases isSource : place = "sources" :: sandboxPlace ground back
    · subst isSource
      cases there.symm.trans first.made
      exact ⟨rfl, .inr rfl⟩
    · cases there.symm.trans (first.vacant vacant isInside isSandbox isSource)

theorem IsAnchored.noLink_sandbox (anchored : IsAnchored root ground back before)
    (target : String) : before.tree.lookup (sandboxPlace ground back) ≠ some (.link target) :=
  anchored.noLink _ (List.prefix_refl _) (by simp [sandboxNames]) target

/-- The path of a plain seed leads to it, if anywhere, when the source directory has been made. -/
theorem IsPlainSeed.leads_made (seeded : IsPlainSeed path base inner (sandboxPlace ground back) before)
    (anchored : IsAnchored root ground back before)
    (keeps : before.KeepsOutside (sandboxPlace ground back) cleared)
    (vacant : IsVacant ground back cleared)
    (first : MakesInside root ground back "sources" cleared made) {place : Place}
    (found : made.find path = .ok (.present place .directory)) :
    made.tree.Leads made.current path (inner.reverse ++ base) := by
  refine seeded.leads_of_find (keeps.trans first.keeps) anchored.noLink_sandbox ?_ found
  intro place isInside target isLink
  cases (first.eq_directory vacant isInside isLink).1

theorem not_sow_of_overlaps (named : cleared.tree.IsWellNamed)
    (anchored : IsAnchored root ground back before)
    (anchoredCleared : IsAnchored root ground back cleared)
    (seeded : IsPlainSeed path base inner (sandboxPlace ground back) before)
    (keeps : before.KeepsOutside (sandboxPlace ground back) cleared)
    (vacant : IsVacant ground back cleared)
    (first : MakesInside root ground back "sources" cleared made)
    (overlaps : Overlaps (inner.reverse ++ base) (sandboxPlace ground back)) :
    (inside root).sow (.directory path) made ≠ (.ok (), after) := by
  intro sows
  have copied : copyTree (4095 + 1) (Path.joinAll path []) (Path.joinAll (inside root).sourceDir [])
      made = (.ok (), after) := sows
  obtain ⟨_, _, read, -⟩ := Effect.bind_ok copied
  obtain ⟨place, found, -, -⟩ := readDirectory_done (reportedFor_ok read)
  have leads := seeded.leads_made anchored keeps vacant first found
  by_cases around : inner.reverse ++ base <:+ sandboxPlace ground back
  · -- The names from the seed down to the source directory.
    obtain ⟨between, spelled⟩ := around
    have whole : ("sources" :: between).reverse.reverse ++ (inner.reverse ++ base) =
        "sources" :: sandboxPlace ground back := by simp [← spelled]
    have isWithin : IsWithin path (inside root).sourceDir (inner.reverse ++ base)
        ("sources" :: between).reverse made := by
      refine ⟨leads, ?_, fun place isInside target isLink => ?_⟩
      · rw [whole]
        exact (first.isFallow anchoredCleared vacant.sources .none before).leads
      · by_cases inSandbox : sandboxPlace ground back <:+ place
        · cases (first.eq_directory vacant inSandbox isLink).1
        · rcases (keeps.trans first.keeps).outside place inSandbox with same | ⟨-, isMade, -⟩
          · exact seeded.noLink isInside target (same.symm.trans isLink)
          · cases isMade.symm.trans isLink
    have proper : ∀ name ∈ ("sources" :: between).reverse ++ [], Path.IsProper name := by
      intro name isMember
      have isPart : name ∈ between ∨ name = "sources" := by simpa using isMember
      rcases isPart with isPart | rfl
      · exact anchoredCleared.properPlace named name (spelled ▸ List.mem_append_left _ isPart)
      · decide
    refine copyTree_within (by simp) isWithin proper List.nil_prefix ?_ copied
    rw [List.reverse_nil, List.nil_append, whole]
    exact first.made
  · obtain ⟨isInside, notSource⟩ := overlaps.resolve_left around
    rcases (first.eq_directory vacant isInside leads.lookup).2 with isSandbox | isSource
    · exact around (isSandbox ▸ List.suffix_refl _)
    · exact notSource isSource

/-- No reset succeeds with a seed that overlaps the sandbox directory. -/
theorem not_reset_of_overlaps (named : before.tree.IsWellNamed)
    (anchored : IsAnchored root ground back before)
    (seeded : IsPlainSeed path base inner (sandboxPlace ground back) before)
    (overlaps : Overlaps (inner.reverse ++ base) (sandboxPlace ground back)) :
    (inside root).reset (.directory path) before ≠ (.ok (), after) := by
  intro done
  obtain ⟨cleared, made, sown, empties, namedCleared, anchoredCleared, vacant, makes, sows, -⟩ :=
    reset_done named anchored done
  have first : MakesInside root ground back "sources" cleared made :=
    makesInside anchoredCleared (by decide) (by simp [vacant.sources]) makes
  exact not_sow_of_overlaps namedCleared anchored anchoredCleared seeded empties.keepsOutside vacant
    first overlaps sows

end Resets

end Workspace

end SnippetSandbox
