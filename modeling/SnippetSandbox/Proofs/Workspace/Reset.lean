import Mathlib
import SnippetSandbox.Proofs.Workspace.Emptying
import SnippetSandbox.Proofs.Workspace.Seed

/-!
# What a reset leaves behind

After a reset the sandbox directory holds an empty class directory and a source directory
with exactly what the seed shows.  Outside of it nothing has changed, except that missing
directories around it were made, so another reset leaves the same behind.

This takes for granted that the path of the sandbox directory does not change its meaning
while the directories are made.  It does when the path leads upwards from a directory that is
missing at first: then nothing is found and nothing is removed, but what is there afterwards
is what was there before.
-/

namespace SnippetSandbox

open FileSystem

namespace Workspace

variable {root : String} {ground : Place} {back : List String} {seed : Seed}
variable {before after : Disk}

/-- A directory is inside the sandbox directory now, and whichever of the two was missing has
been made.  Nothing else in the sandbox directory has changed. -/
structure MakesInside (root : String) (ground : Place) (back : List String) (name : String)
    (before after : Disk) : Prop where
  usable : Path.IsUsable (Path.join (inside root).sandboxDir name)
  plain : ∀ other ∈ sandboxNames back ++ [name], IsPlainName other
  keeps : before.KeepsOutside (sandboxPlace ground back) after
  sandbox : after.tree.lookup (sandboxPlace ground back) = some .directory
  made : after.tree.lookup (name :: sandboxPlace ground back) = some .directory
  same : ∀ other, sandboxPlace ground back <:+ other → other ≠ sandboxPlace ground back →
    other ≠ name :: sandboxPlace ground back → after.tree.lookup other = before.tree.lookup other

theorem makesInside (anchored : IsAnchored root ground back before) {name : String}
    (proper : Path.IsProper name)
    (noLink : ∀ target,
      before.tree.lookup (name :: sandboxPlace ground back) ≠ some (.link target))
    (done : makeDirectories (Path.join (inside root).sandboxDir name) before = (.ok (), after)) :
    MakesInside root ground back name before after := by
  have properName : ∀ other ∈ [name], Path.IsProper other := by simpa using proper
  have spelling : (sandboxNames back ++ [name]).reverse ++ ground =
      name :: sandboxPlace ground back := by simp [sandboxPlace]
  obtain ⟨front, reaches, written⟩ := anchored.spelled properName
  obtain ⟨usable, plain, made, places⟩ := Disk.AddsDirectories.makeDirectories_below written
    (by simp) reaches (properAll anchored.properNames properName) (anchored.noLink.concat noLink)
    done
  rw [spelling] at made
  have sandbox : after.tree.lookup (sandboxPlace ground back) = some .directory :=
    Tree.lookup_around made
  -- New directories lead to the sandbox directory, apart from the one in it.
  have news (other : Place) : after.tree.lookup other = before.tree.lookup other ∨
      before.tree.lookup other = none ∧ after.tree.lookup other = some .directory ∧
        (other = name :: sandboxPlace ground back ∨ other <:+ sandboxPlace ground back) := by
    rcases places other with same | ⟨free, isMade, part, isPrefix, -, rfl⟩
    · exact .inl same
    · refine .inr ⟨free, isMade, ?_⟩
      rcases List.prefix_concat_iff.mp isPrefix with rfl | isPrefix
      · exact .inl spelling
      · exact .inr (spelled_suffix isPrefix ground)
  refine ⟨usable, plain, ⟨?_, fun other isOutside => ?_, fun _ => sandbox⟩, sandbox, made, ?_⟩
  · exact ((Disk.AddsDirectories.makeDirectories _).states done).current
  · rcases news other with same | ⟨free, isMade, rfl | around⟩
    · exact .inl same
    · exact absurd (List.suffix_cons _ _) isOutside
    · exact .inr ⟨free, isMade, around⟩
  · intro other isInside notSandbox notMade
    rcases news other with same | ⟨-, -, isMade | around⟩
    · exact same
    · exact absurd isMade notMade
    · exact absurd (around.eq_of_length_le isInside.length_le) notSandbox

theorem ensureReady_done {workspace : Workspace} {fresh : Bool}
    (missing : before.pathExists workspace.sourceDir = false)
    (done : workspace.ensureReady seed before = (.ok fresh, after)) :
    ∃ made sown, makeDirectories workspace.sourceDir before = (.ok (), made) ∧
      workspace.sow seed made = (.ok (), sown) ∧
      makeDirectories workspace.classDir sown = (.ok (), after) := by
  obtain ⟨present, _, asked, done⟩ := Effect.bind_ok done
  cases asked
  dsimp only at done
  rw [if_pos (by simp [missing])] at done
  obtain ⟨⟨⟩, made, first, done⟩ := Effect.bind_ok done
  obtain ⟨⟨⟩, sown, second, done⟩ := Effect.bind_ok done
  obtain ⟨⟨⟩, last, third, done⟩ := Effect.bind_ok done
  cases done
  exact ⟨made, sown, reportedFor_ok first, second, reportedFor_ok third⟩

/-- A workspace whose directories are there is ready. -/
theorem ensureReady_of_there {workspace : Workspace}
    (present : before.pathExists workspace.sourceDir = true)
    (made : makeDirectories workspace.classDir before = (.ok (), before)) :
    workspace.ensureReady seed before = (.ok false, before) := by
  have asked : (Task.ask (·.pathExists workspace.sourceDir) : Task Bool) before =
      (.ok true, before) := by
    rw [Task.ask, present]
  rw [ensureReady, Effect.bind_of_ok asked]
  dsimp only
  rw [if_neg (by simp)]
  exact Effect.bind_of_ok (reportedFor_of_ok made)

theorem ensureReady_of_steps {workspace : Workspace} {made sown : Disk}
    (missing : before.pathExists workspace.sourceDir = false)
    (makes : makeDirectories workspace.sourceDir before = (.ok (), made))
    (sows : workspace.sow seed made = (.ok (), sown))
    (ends : makeDirectories workspace.classDir sown = (.ok (), after)) :
    ∃ fresh, workspace.ensureReady seed before = (.ok fresh, after) := by
  have asked : (Task.ask (·.pathExists workspace.sourceDir) : Task Bool) before =
      (.ok false, before) := by
    rw [Task.ask, missing]
  refine ⟨!false && seed != .none, ?_⟩
  rw [ensureReady, Effect.bind_of_ok asked]
  dsimp only
  rw [if_pos (by simp), Effect.bind_of_ok (reportedFor_of_ok makes), Effect.bind_of_ok sows]
  exact (Effect.bind_of_ok (reportedFor_of_ok ends)).trans rfl

/-- The sandbox directory is as a reset leaves it, and nothing outside of it has changed. -/
structure IsReset (root : String) (ground : Place) (back : List String) (seed : Seed)
    (before after : Disk) : Prop where
  found : after.find (inside root).sandboxDir =
    .ok (.present (sandboxPlace ground back) .directory)
  layout : ∀ names, (after.tree.lookup (names.reverse ++ sandboxPlace ground back)).map
    Entry.likeness = seed.layout before names
  keeps : before.KeepsOutside (sandboxPlace ground back) after

/-- Nothing is in the sandbox directory, whether or not it is there. -/
def IsVacant (ground : Place) (back : List String) (disk : Disk) : Prop :=
  ∀ other, sandboxPlace ground back <:+ other → other ≠ sandboxPlace ground back →
    disk.tree.lookup other = none

theorem IsVacant.sources (vacant : IsVacant ground back before) :
    before.tree.lookup ("sources" :: sandboxPlace ground back) = none :=
  vacant _ (List.suffix_cons _ _) (List.cons_ne_self _ _)

theorem ne_sandboxPlace {names : List String} {name : String} :
    names.reverse ++ name :: sandboxPlace ground back ≠ sandboxPlace ground back := by
  intro same
  have lengths := congrArg List.length same
  simp at lengths
  omega

theorem isUsable_sandboxDir (usable : Path.IsUsable (inside root).sourceDir) :
    Path.IsUsable (inside root).sandboxDir :=
  usable.of_join (by decide) (Path.join_ne_empty (by decide) root)

section Steps

variable {made sown : Disk}

theorem MakesInside.vacant (first : MakesInside root ground back "sources" before made)
    (vacant : IsVacant ground back before) {other : Place}
    (isInside : sandboxPlace ground back <:+ other) (notSandbox : other ≠ sandboxPlace ground back)
    (notSources : other ≠ "sources" :: sandboxPlace ground back) :
    made.tree.lookup other = none :=
  (first.same other isInside notSandbox notSources).trans (vacant other isInside notSandbox)

theorem MakesInside.plainNames {name : String}
    (made : MakesInside root ground back name before after) :
    ∀ other ∈ sandboxNames back, IsPlainName other :=
  fun other isMember => made.plain other (List.mem_append_left _ isMember)

theorem MakesInside.isFallow (first : MakesInside root ground back "sources" before made)
    (anchored : IsAnchored root ground back before)
    (missing : before.tree.lookup ("sources" :: sandboxPlace ground back) = none)
    (seed : Seed) (disk : Disk) :
    made.IsFallow (inside root).sourceDir ("sources" :: sandboxPlace ground back)
      (seed.shows disk) where
  leads := by
    have anchoredMade := anchored.kept first.keeps (by simp [first.sandbox])
    exact anchoredMade.leadsInside (by decide) first.plain first.made
  empty other isInside different := by
    rw [first.same other ((List.suffix_cons _ _).trans isInside) ?_ different]
    · exact Tree.lookup_below (by simp [missing]) isInside different.symm
    · rintro rfl
      exact absurd isInside.length_le (by simp)
  noLink names _ := seed.shows_ne_link disk names

/-- Whatever is in the sandbox directory once it has been sown is at or below the source
directory, under names that an entry can have. -/
theorem MakesInside.proper_of_sown (first : MakesInside root ground back "sources" before made)
    (anchored : IsAnchored root ground back before) (vacant : IsVacant ground back before)
    (sows : made.Sows ("sources" :: sandboxPlace ground back) (seed.shows before) sown)
    {name : String} {inner : List String} {entry : Entry}
    (found : sown.tree.lookup (inner.reverse ++ name :: sandboxPlace ground back) = some entry) :
    name = "sources" ∧ ∀ other ∈ inner, Path.IsProper other := by
  have isSource : name = "sources" := by
    rcases sows.places (inner.reverse ++ name :: sandboxPlace ground back) with
      same | ⟨names, _, -, -, here, -⟩
    · rw [same] at found
      apply Classical.byContradiction
      intro different
      rw [first.vacant vacant ((List.suffix_cons _ _).trans (List.suffix_append _ _))] at found
      · cases found
      · exact ne_sandboxPlace
      · intro here
        exact different (@spelled_inj _ _ _ [] _ here).1
    · exact (spelled_inj here).1
  subst isSource
  refine ⟨rfl, ?_⟩
  cases inner with
  | nil => exact nofun
  | cons next inner =>
      exact (sows.shown (first.isFallow anchored vacant.sources seed before) (by simp) found).1

theorem MakesInside.noClasses_of_sown
    (first : MakesInside root ground back "sources" before made)
    (anchored : IsAnchored root ground back before) (vacant : IsVacant ground back before)
    (sows : made.Sows ("sources" :: sandboxPlace ground back) (seed.shows before) sown) :
    sown.tree.lookup ("classes" :: sandboxPlace ground back) = none := by
  rw [Option.eq_none_iff_forall_ne_some]
  intro entry found
  have atName : sown.tree.lookup ([].reverse ++ "classes" :: sandboxPlace ground back) =
    some entry := found
  exact absurd (first.proper_of_sown anchored vacant sows atName).1 (by decide)

theorem MakesInside.sources_of_sown (first : MakesInside root ground back "sources" before made)
    (anchored : IsAnchored root ground back before)
    (missing : before.tree.lookup ("sources" :: sandboxPlace ground back) = none)
    (sows : made.Sows ("sources" :: sandboxPlace ground back) (seed.shows before) sown)
    (isSown : IsSown ("sources" :: sandboxPlace ground back) (seed.shows before) [] sown)
    (inner : List String) :
    (sown.tree.lookup (inner.reverse ++ "sources" :: sandboxPlace ground back)).map
      Entry.likeness = seed.layout before ("sources" :: inner) := by
  rw [Seed.layout, if_pos rfl]
  by_cases last : inner = []
  · subst last
    rw [if_pos rfl, List.reverse_nil, List.nil_append, sows.keepsDirectory first.made]
    rfl
  · rw [if_neg last]
    cases there : sown.tree.lookup (inner.reverse ++ "sources" :: sandboxPlace ground back) with
    | some entry =>
        have fallow := first.isFallow anchored missing seed before
        obtain ⟨proper, isShown⟩ := sows.shown fallow last there
        rw [if_pos proper, isShown]
        rfl
    | none =>
        split
        next proper =>
          rw [Option.map_none, eq_comm]
          apply Classical.byContradiction
          intro isShown
          obtain ⟨entry, found⟩ := isSown inner proper isShown
          cases there.symm.trans found
        next => rfl

/-- What has been sown is below the source directory, and nothing else is in the sandbox. -/
theorem layout_of_sown (first : MakesInside root ground back "sources" before made)
    (anchored : IsAnchored root ground back before) (vacant : IsVacant ground back before)
    (sows : made.Sows ("sources" :: sandboxPlace ground back) (seed.shows before) sown)
    (isSown : IsSown ("sources" :: sandboxPlace ground back) (seed.shows before) [] sown)
    (name : String) (inner : List String) (notClasses : ¬ (name = "classes" ∧ inner = [])) :
    (sown.tree.lookup ((name :: inner).reverse ++ sandboxPlace ground back)).map
      Entry.likeness = seed.layout before (name :: inner) := by
  have spelling : (name :: inner).reverse ++ sandboxPlace ground back =
      inner.reverse ++ name :: sandboxPlace ground back := by simp
  rw [spelling]
  by_cases isSource : name = "sources"
  · subst isSource
    exact first.sources_of_sown anchored vacant.sources sows isSown inner
  · rw [Seed.layout, if_neg isSource, if_neg notClasses]
    cases there : sown.tree.lookup (inner.reverse ++ name :: sandboxPlace ground back) with
    | none => rfl
    | some entry => exact absurd (first.proper_of_sown anchored vacant sows there).1 isSource

/-- The class directory completes what is in the sandbox directory. -/
theorem MakesInside.layout (last : MakesInside root ground back "classes" sown after)
    (holds : ∀ name inner, ¬ (name = "classes" ∧ inner = []) →
      (sown.tree.lookup ((name :: inner).reverse ++ sandboxPlace ground back)).map
        Entry.likeness = seed.layout before (name :: inner)) (names : List String) :
    (after.tree.lookup (names.reverse ++ sandboxPlace ground back)).map Entry.likeness =
      seed.layout before names := by
  cases names with
  | nil =>
      rw [List.reverse_nil, List.nil_append, last.sandbox]
      rfl
  | cons name inner =>
      by_cases isClasses : name = "classes" ∧ inner = []
      · obtain ⟨rfl, rfl⟩ := isClasses
        have spelled : ["classes"].reverse ++ sandboxPlace ground back =
          "classes" :: sandboxPlace ground back := rfl
        rw [spelled, last.made]
        rfl
      · rw [last.same, holds name inner isClasses]
        · exact List.suffix_append _ _
        · simpa using ne_sandboxPlace
        · intro here
          rw [List.reverse_cons, List.append_assoc] at here
          exact isClasses (@spelled_inj _ _ _ [] _ here)

/-- A workspace whose sandbox directory is empty or missing is made ready as by a reset. -/
theorem isReset_of_steps (named : before.tree.IsWellNamed)
    (anchored : IsAnchored root ground back before)
    (apart : seed.IsApart (sandboxPlace ground back) before)
    (vacant : IsVacant ground back before)
    (makes : makeDirectories (inside root).sourceDir before = (.ok (), made))
    (sows : (inside root).sow seed made = (.ok (), sown))
    (ends : makeDirectories (inside root).classDir sown = (.ok (), after)) :
    IsReset root ground back seed before after := by
  have first : MakesInside root ground back "sources" before made := by
    refine makesInside anchored (by decide) ?_ makes
    simp [vacant.sources]
  have keepsLater {later : Disk}
      (sows : made.Sows ("sources" :: sandboxPlace ground back) (seed.shows before) later) :
      before.KeepsOutside (sandboxPlace ground back) later :=
    first.keeps.trans (sows.keepsOutside (List.suffix_cons _ _))
  have namedLater (later : Disk)
      (sows : made.Sows ("sources" :: sandboxPlace ground back) (seed.shows before) later) :
      later.tree.IsWellNamed := by
    refine anchored.wellNamed named (keepsLater sows) fun names entry found => ?_
    cases names with
    | nil => exact nofun
    | cons name inner =>
        obtain ⟨rfl, proper⟩ :=
          first.proper_of_sown anchored vacant sows (by simpa using found)
        simpa using ⟨by decide, proper⟩
  obtain ⟨sows, isSown⟩ := sow_done (first.isFallow anchored vacant.sources seed before)
    (fun later sows => apart later (keepsLater sows)) namedLater sows
  have holds := layout_of_sown first anchored vacant sows isSown
  have noClasses := first.noClasses_of_sown anchored vacant sows
  have anchoredSown : IsAnchored root ground back sown :=
    anchored.kept (keepsLater sows) (by simp [sows.keepsDirectory first.sandbox])
  have last : MakesInside root ground back "classes" sown after :=
    makesInside anchoredSown (by decide) (by simp [noClasses]) ends
  have keeps := (keepsLater sows).trans last.keeps
  have anchoredAfter : IsAnchored root ground back after :=
    anchored.kept keeps (by simp [last.sandbox])
  have sandboxLeads := anchoredAfter.leads last.plainNames last.sandbox
  exact ⟨sandboxLeads.find (isUsable_sandboxDir first.usable), last.layout holds, keeps⟩

end Steps

theorem pathExists_of_noSources (anchored : IsAnchored root ground back before)
    (missing : before.tree.lookup ("sources" :: sandboxPlace ground back) = none) :
    before.pathExists (inside root).sourceDir = false := by
  rw [Bool.eq_false_iff, Ne, Disk.pathExists_iff]
  rintro ⟨place, entry, found⟩
  have proper : ∀ name ∈ ["sources"], Path.IsProper name := by decide
  obtain ⟨holder, leads⟩ := Tree.leads_of_find_joinAll proper found
  obtain ⟨rfl, -⟩ := anchored.place_eq leads
  obtain ⟨atPlace, -⟩ := leads.find_below (by simp) proper (.singleton (by simp [missing])) found
  have there := Tree.find_ends found
  rw [atPlace] at there
  cases missing.symm.trans there

theorem pathExists_of_missing (missing : before.pathExists (inside root).sandboxDir = false) :
    before.pathExists (inside root).sourceDir = false := by
  rw [Bool.eq_false_iff, Ne, Disk.pathExists_iff] at missing ⊢
  rintro ⟨place, entry, found⟩
  have proper : ∀ name ∈ ["sources"], Path.IsProper name := by decide
  obtain ⟨holder, leads⟩ := Tree.leads_of_find_joinAll proper found
  exact missing ⟨holder, _, leads.find (isUsable_sandboxDir (Tree.find_done found).1)⟩

theorem plain_of_made (anchored : IsAnchored root ground back before)
    (made : makeDirectories (inside root).sourceDir before = (.ok (), after)) :
    Path.IsUsable (inside root).sandboxDir ∧ ∀ name ∈ sandboxNames back, IsPlainName name := by
  have proper : ∀ name ∈ ["sources"], Path.IsProper name := by decide
  obtain ⟨usable, place, -, left, way⟩ := Disk.AddsDirectories.leads_of_makeDirectories
    (Path.join_ne_empty (by decide) (inside root).sandboxDir) made
  obtain ⟨front, -, written⟩ := anchored.spelled proper
  change Path.names (Path.join (inside root).sandboxDir "sources") = _ at written
  rw [written] at way
  obtain ⟨between, middle, -, way⟩ := way.split
  have plain := way.plain (properAll anchored.properNames proper)
  exact ⟨isUsable_sandboxDir usable, fun name isMember =>
    plain name (List.mem_append_left _ isMember)⟩

/-- Where the sandbox directory is found missing and directories can be made on the way to it,
nothing is in its place.  It might be there without being found only if the way were too long. -/
theorem vacant_of_missing (anchored : IsAnchored root ground back before)
    (missing : before.pathExists (inside root).sandboxDir = false)
    (made : makeDirectories (inside root).sourceDir before = (.ok (), after)) :
    IsVacant ground back before := by
  obtain ⟨usable, plain⟩ := plain_of_made anchored made
  have notThere : before.tree.lookup (sandboxPlace ground back) ≠ some .directory := by
    intro directory
    have found := (anchored.leads plain directory).find usable
    rw [Disk.pathExists_iff.mpr ⟨_, _, found⟩] at missing
    cases missing
  exact fun other isInside different => Tree.lookup_below notThere isInside different.symm

/-- A reset that succeeds has emptied the sandbox directory, or found it missing, and then it has
taken the three steps that make a workspace ready. -/
theorem reset_done (named : before.tree.IsWellNamed) (anchored : IsAnchored root ground back before)
    (done : (inside root).reset seed before = (.ok (), after)) :
    ∃ cleared made sown, before.Empties (sandboxPlace ground back) cleared ∧
      cleared.tree.IsWellNamed ∧ IsAnchored root ground back cleared ∧
      IsVacant ground back cleared ∧
      makeDirectories (inside root).sourceDir cleared = (.ok (), made) ∧
      (inside root).sow seed made = (.ok (), sown) ∧
      makeDirectories (inside root).classDir sown = (.ok (), after) := by
  obtain ⟨present, _, asked, done⟩ := Effect.bind_ok done
  cases asked
  dsimp only at done
  split at done
  next present =>
    obtain ⟨⟨⟩, cleared, emptied, done⟩ := Effect.bind_ok done
    obtain ⟨fresh, _, ready, ⟨⟩⟩ := Effect.bind_ok done
    obtain ⟨directory, empties, vacant⟩ := emptyDirectory_done named anchored emptied
    have anchoredCleared :=
      anchored.kept empties.keepsOutside (by simp [empties.lookup_place, directory])
    obtain ⟨made, sown, steps⟩ := ensureReady_done
      (pathExists_of_noSources anchoredCleared (IsVacant.sources vacant)) ready
    exact ⟨cleared, made, sown, empties, empties.wellNamed named, anchoredCleared, vacant, steps⟩
  next missing =>
    obtain ⟨fresh, _, ready, ⟨⟩⟩ := Effect.bind_ok done
    obtain ⟨made, sown, makes, rest⟩ :=
      ensureReady_done (pathExists_of_missing (by simpa using missing)) ready
    have vacant := vacant_of_missing anchored (by simpa using missing) makes
    exact ⟨before, made, sown, .refl _ _, named, anchored, vacant, makes, rest⟩

theorem isReset_of_reset (named : before.tree.IsWellNamed)
    (anchored : IsAnchored root ground back before)
    (apart : seed.IsApart (sandboxPlace ground back) before)
    (done : (inside root).reset seed before = (.ok (), after)) :
    IsReset root ground back seed before after := by
  obtain ⟨cleared, made, sown, empties, namedCleared, anchoredCleared, vacant, makes, sows, ends⟩ :=
    reset_done named anchored done
  have keeps := empties.keepsOutside
  obtain ⟨found, layout, keepsLater⟩ := isReset_of_steps namedCleared anchoredCleared
    (apart.kept keeps) vacant makes sows ends
  rw [apart.layout_eq keeps] at layout
  exact ⟨found, layout, keeps.trans keepsLater⟩

namespace IsReset

theorem wellNamed (reset : IsReset root ground back seed before after)
    (anchored : IsAnchored root ground back before) (named : before.tree.IsWellNamed) :
    after.tree.IsWellNamed := by
  refine anchored.wellNamed named reset.keeps fun names entry found => ?_
  have held := reset.layout names
  rw [found] at held
  cases names with
  | nil => exact nofun
  | cons name inner =>
      rw [Seed.layout] at held
      split at held
      next isSource =>
        subst isSource
        split at held
        next last => simpa [last] using (by decide : Path.IsProper "sources")
        next =>
          split at held
          next proper => simpa using ⟨(by decide : Path.IsProper "sources"), proper⟩
          next => cases held
      next =>
        split at held
        next isClasses =>
          obtain ⟨rfl, rfl⟩ := isClasses
          simpa using (by decide : Path.IsProper "classes")
        next => cases held

theorem sandbox (reset : IsReset root ground back seed before after) :
    after.tree.lookup (sandboxPlace ground back) = some .directory :=
  Tree.find_ends reset.found

/-- A second reset leaves everything as the first has left it. -/
theorem again {last : Disk} (reset : IsReset root ground back seed before after)
    (apart : seed.IsApart (sandboxPlace ground back) before)
    (second : IsReset root ground back seed after last) (place : Place) :
    (last.tree.lookup place).map Entry.likeness = (after.tree.lookup place).map Entry.likeness := by
  by_cases inside : sandboxPlace ground back <:+ place
  · obtain ⟨front, rfl⟩ := inside
    have one := reset.layout front.reverse
    have two := second.layout front.reverse
    rw [List.reverse_reverse] at one two
    rw [one, two, apart.layout_eq reset.keeps]
  · rcases second.keeps.outside place inside with same | ⟨free, -, around⟩
    · rw [same]
    · -- No directory around the sandbox directory is missing any more.
      have there := Tree.lookup_of_suffix reset.sandbox around fun same =>
        inside (same ▸ List.suffix_refl _)
      cases free.symm.trans there

end IsReset

/-- After a reset the sandbox directory holds an empty class directory and a source directory
with exactly what the seed shows; outside of it nothing has changed, except that missing
directories around it were made; and another reset leaves everything as it is, apart from the
identities of the files.  For this the path of the sandbox directory must lead there without
entering it, and downwards where directories are missing. -/
theorem reset_restores {root : String} {ground : Place} {back : List String} {seed : Seed}
    {before after : Disk} (named : before.tree.IsWellNamed)
    (anchored : IsAnchored root ground back before)
    (apart : seed.IsApart (sandboxPlace ground back) before)
    (done : (inside root).reset seed before = (.ok (), after)) :
    IsReset root ground back seed before after ∧
      ∀ last, (inside root).reset seed after = (.ok (), last) →
        IsReset root ground back seed after last ∧
        ∀ place, (last.tree.lookup place).map Entry.likeness =
          (after.tree.lookup place).map Entry.likeness := by
  have first := isReset_of_reset named anchored apart done
  refine ⟨first, fun last doneAgain => ?_⟩
  have anchoredAfter := anchored.kept first.keeps (by simp [first.sandbox])
  have second := isReset_of_reset (first.wellNamed anchored named) anchoredAfter
    (apart.kept first.keeps) doneAgain
  exact ⟨second, first.again apart second⟩

/-- A disk whose sandbox directory contains nothing but a link to a directory outside. -/
def linkedSandbox : Disk :=
  { tree := ⟨[("kept", .directory [("A.java", .file 0 ByteArray.empty false)]),
      ("sandbox", .directory [("away", .link "/kept")])], 1⟩
    current := [] }

/-- Its sandbox directory is emptied, and gets a source directory with a copy. -/
def unlinkedSandbox : Disk :=
  { linkedSandbox with tree := linkedSandbox.tree.clear ["away", "sandbox"] }

def unsownSandbox : Disk :=
  { linkedSandbox with tree := unlinkedSandbox.tree.put ["sources", "sandbox"] .directory }

def sownSandbox : Disk :=
  { linkedSandbox with
    tree := (unsownSandbox.tree.create ["A.java", "sources", "sandbox"] ByteArray.empty
      false).put ["A.java", "sources", "sandbox"] (.file 1 ByteArray.empty false) }

theorem emptyDirectory_linkedSandbox :
    emptyDirectory (inside "/").sandboxDir linkedSandbox = (.ok (), unlinkedSandbox) := by
  have found : linkedSandbox.find (inside "/").sandboxDir = .ok (.present ["sandbox"] .directory) :=
    Tree.find_absolute ["", "sandbox"] (by decide) (by cbv)
  have read : readDirectory (inside "/").sandboxDir linkedSandbox =
      (.ok ["away"], linkedSandbox) := by
    have listed : linkedSandbox.tree.names ["sandbox"] = ["away"] :=
      List.mergeSort_singleton "away"
    refine attempt_of_ok rfl ?_
    rw [found, ← listed]
  have asked : (Task.ask (·.isDirectory (Path.join (inside "/").sandboxDir "away")) : Task Bool)
      linkedSandbox = (.ok true, linkedSandbox) := by
    have followed : linkedSandbox.find (Path.join (inside "/").sandboxDir "away") =
        .ok (.present ["kept"] .directory) :=
      Tree.find_absolute ["", "sandbox", "away"] (by decide) (by cbv)
    rw [Task.ask, Disk.isDirectory, Disk.entryAt?, followed]
  have removed : removeTree (Path.join (inside "/").sandboxDir "away") linkedSandbox =
      (.ok (), unlinkedSandbox) := by
    have isLink : linkedSandbox.findLink (Path.join (inside "/").sandboxDir "away") =
        .ok (.present ["away", "sandbox"] (.link "/kept")) :=
      Tree.find_absolute ["", "sandbox", "away"] (by decide) (by cbv)
    refine attempt_of_ok rfl ?_
    rw [isLink]
    rfl
  rw [emptyDirectory, Effect.bind_of_ok (reportedFor_of_ok read)]
  refine Effect.forM_singleton ?_
  rw [Effect.bind_of_ok asked, if_pos rfl]
  exact reportedFor_of_ok removed

theorem sow_linkedSandbox :
    (inside "/").sow (.directory "/kept") unsownSandbox = (.ok (), sownSandbox) := by
  have found : unsownSandbox.find "/kept" = .ok (.present ["kept"] .directory) :=
    Tree.find_absolute ["", "kept"] (by decide) (by cbv)
  have read : readDirectory "/kept" unsownSandbox = (.ok ["A.java"], unsownSandbox) := by
    have listed : unsownSandbox.tree.names ["kept"] = ["A.java"] :=
      List.mergeSort_singleton "A.java"
    refine attempt_of_ok rfl ?_
    rw [found, ← listed]
  have isFile : unsownSandbox.entryAt? (Path.join "/kept" "A.java") =
      .ok (.file 0 ByteArray.empty false) := by
    have found : unsownSandbox.find (Path.join "/kept" "A.java") =
        .ok (.present ["A.java", "kept"] (.file 0 ByteArray.empty false)) :=
      Tree.find_absolute ["", "kept", "A.java"] (by decide) (by cbv)
    rw [Disk.entryAt?, found]
  have asked : (Task.ask (·.isDirectory (Path.join "/kept" "A.java")) : Task Bool)
      unsownSandbox = (.ok false, unsownSandbox) := by
    rw [Task.ask, Disk.isDirectory, isFile]
  have free : unsownSandbox.tree.find unsownSandbox.current .newFile
      (Path.join (inside "/").sourceDir "A.java") =
        .ok (.absent ["A.java", "sources", "sandbox"] false) :=
    Tree.find_absolute ["", "sandbox", "sources", "A.java"] (by decide) (by cbv)
  have opened := openForWriting_of_absent rfl free false
  have copied : copyFile (Path.join "/kept" "A.java") (Path.join (inside "/").sourceDir "A.java")
      unsownSandbox = (.ok (), sownSandbox) :=
    copyFile_of_ok rfl isFile ((Effect.bind_of_ok opened).trans rfl)
  change copyTree (4095 + 1) "/kept" (inside "/").sourceDir unsownSandbox = _
  rw [copyTree, Effect.bind_of_ok (reportedFor_of_ok read)]
  refine Effect.forM_singleton ?_
  rw [Effect.bind_of_ok asked, if_neg (by simp)]
  exact reportedFor_of_ok copied

theorem find_unlinkedSandbox :
    unlinkedSandbox.find (inside "/").sourceDir = .ok (.absent ["sources", "sandbox"] false) :=
  Tree.find_absolute ["", "sandbox", "sources"] (by decide) (by cbv)

theorem ensureReady_unlinkedSandbox : ∃ fresh after,
    (inside "/").ensureReady (.directory "/kept") unlinkedSandbox = (.ok fresh, after) := by
  have missing : unlinkedSandbox.pathExists (inside "/").sourceDir = false := by
    rw [Disk.pathExists, Disk.entryAt?, find_unlinkedSandbox]
  have makes : makeDirectories (inside "/").sourceDir unlinkedSandbox = (.ok (), unsownSandbox) :=
    makeDirectoriesUp_of_absent _ rfl (by decide)
      (Tree.find_absolute ["", "sandbox", "sources"] (by decide) (by cbv))
  obtain ⟨after, ends⟩ : ∃ after,
      makeDirectories (inside "/").classDir sownSandbox = (.ok (), after) :=
    ⟨_, makeDirectoriesUp_of_absent _ rfl (by decide)
      (Tree.find_absolute ["", "sandbox", "classes"] (by decide) (by cbv))⟩
  obtain ⟨fresh, ready⟩ := ensureReady_of_steps missing makes sow_linkedSandbox ends
  exact ⟨fresh, after, ready⟩

theorem reset_linkedSandbox :
    ∃ after, (inside "/").reset (.directory "/kept") linkedSandbox = (.ok (), after) := by
  have present : (Task.ask (·.pathExists (inside "/").sandboxDir) : Task Bool) linkedSandbox =
      (.ok true, linkedSandbox) := by
    have found : linkedSandbox.find (inside "/").sandboxDir =
        .ok (.present ["sandbox"] .directory) :=
      Tree.find_absolute ["", "sandbox"] (by decide) (by cbv)
    rw [Task.ask, Disk.pathExists_iff.mpr ⟨_, _, found⟩]
  obtain ⟨fresh, after, ready⟩ := ensureReady_unlinkedSandbox
  refine ⟨after, ?_⟩
  rw [reset, Effect.bind_of_ok present, if_pos rfl,
    Effect.bind_of_ok emptyDirectory_linkedSandbox]
  exact (Effect.bind_of_ok ready).trans rfl

theorem isAnchored_root {disk : Disk}
    (noLink : ∀ target, disk.tree.lookup ["sandbox"] ≠ some (.link target)) :
    IsAnchored "/" [] [] disk := by
  have origin : disk.current.origin "/" = [] := by rw [Place.origin, if_pos (by decide)]
  have names : Path.names "/" = [] := by decide
  have anchored : IsAnchored "/" (disk.current.origin "/") (Path.names "/") disk := by
    refine .of_noLinks (origin ▸ disk.tree.lookup_root) (by simp [names]) ?_
    rw [origin, names]
    exact .singleton noLink
  rwa [origin, names] at anchored

theorem isAnchored_linkedSandbox : IsAnchored "/" [] [] linkedSandbox :=
  isAnchored_root nofun

/-- The directory that is linked to can be the seed, since it is outside. -/
theorem isApart_linkedSandbox :
    (Seed.directory "/kept").IsApart (sandboxPlace [] []) linkedSandbox := by
  have origin : linkedSandbox.current.origin "/kept" = [] := by decide
  have names : Path.names "/kept" = ["kept"] := by decide
  have leads (other : Tree)
      (keeps : ∀ passed entry, entry.isPassable = true → ¬ sandboxPlace [] [] <:+ passed →
        linkedSandbox.tree.lookup passed = some entry → other.lookup passed = some entry) :
      other.Leads linkedSandbox.current "/kept" ["kept"] := by
    have there := keeps ["kept"] .directory rfl (by decide) rfl
    rw [Tree.Leads, origin, names]
    exact ⟨other.lookup_root, linkLimit, .enter ⟨by decide, by decide, by decide⟩ there .arrived⟩
  have noLinks : ∀ item ∈ linkedSandbox.tree.entriesBelow [], ["kept"] <:+ item.1 →
      item.2 ∈ [.directory, .file 0 ByteArray.empty false] := by decide
  refine Seed.isApart_of_noLinks leads (by decide) (by decide) ?_
  intro inner isInside target isLink
  have isEntry : inner ≠ [] := by
    rintro rfl
    simp at isInside
  exact absurd (noLinks _ (Tree.mem_entriesBelow isEntry isLink) isInside) (by simp)

theorem reset_restores_linked : ∃ after,
    (inside "/").reset (.directory "/kept") linkedSandbox = (.ok (), after) ∧
      after.tree.lookup ["away", "sandbox"] = none ∧
      (after.tree.lookup ["A.java", "sources", "sandbox"]).map Entry.likeness =
        some (.file 0 ByteArray.empty false) ∧
      after.tree.lookup ["A.java", "kept"] = some (.file 0 ByteArray.empty false) := by
  have named : linkedSandbox.tree.IsWellNamed := .of_entries (by decide)
  obtain ⟨after, done⟩ := reset_linkedSandbox
  obtain ⟨⟨-, layout, keeps⟩, -⟩ :=
    reset_restores named isAnchored_linkedSandbox isApart_linkedSandbox done
  refine ⟨after, done, ?_, ?_, keeps.keeps (by decide) rfl⟩
  · have gone := layout ["away"]
    simpa [Seed.layout, sandboxPlace, sandboxNames] using gone
  · have proper : ∀ name ∈ ["A.java"], Path.IsProper name := by decide
    have found : linkedSandbox.find (Path.joinAll "/kept" ["A.java"]) =
        .ok (.present ["A.java", "kept"] (.file 0 ByteArray.empty false)) :=
      Tree.find_absolute ["", "kept", "A.java"] (by decide) (by cbv)
    have isFile : linkedSandbox.entryAt? (Path.joinAll "/kept" ["A.java"]) =
        .ok (.file 0 ByteArray.empty false) := by rw [Disk.entryAt?, found]
    have isShown : (Seed.directory "/kept").shows linkedSandbox ["A.java"] =
        some (.file 0 ByteArray.empty false) := Disk.seen?_of_entryAt? isFile
    have copied := layout ["sources", "A.java"]
    rw [Seed.layout, if_pos rfl, if_neg (by simp), if_pos proper, isShown] at copied
    exact copied

/-- A disk with an old source in the sandbox directory of the root directory. -/
def staleSandbox : Disk :=
  { tree := ⟨[("sandbox", .directory [("classes", .directory []),
      ("sources", .directory [("Old.java", .file 0 ByteArray.empty false)])])], 1⟩
    current := [] }

/-- The same disk with the directory that the path of the root leads back from. -/
def reachedSandbox : Disk :=
  { staleSandbox with tree := staleSandbox.tree.put ["missing"] .directory }

/-- Making the source directory makes the missing directory, and then everything else on the
way is found to be there. -/
theorem makeDirectories_staleSandbox :
    makeDirectories (inside "/missing/..").sourceDir staleSandbox = (.ok (), reachedSandbox) := by
  have levels : (Path.segments (inside "/missing/..").sourceDir).length = 5 := by decide
  have missing : makeDirectoriesUp 2 "/missing" staleSandbox = (.ok (), reachedSandbox) :=
    makeDirectoriesUp_of_absent 2 rfl (by decide)
      (Tree.find_absolute ["", "missing"] (by decide) (by cbv))
  have root : makeDirectoriesUp 3 "/missing/.." staleSandbox = (.ok (), reachedSandbox) :=
    makeDirectoriesUp_of_missing rfl rfl (by decide)
      (Tree.find_absolute ["", "missing", ".."] (by decide) (by cbv))
      (by decide) missing
      (Tree.find_absolute ["", "missing", ".."] (by decide) (by cbv))
      (Tree.find_absolute ["", "missing", ".."] (by decide) (by cbv))
  have sandbox : makeDirectoriesUp 4 (inside "/missing/..").sandboxDir staleSandbox =
      (.ok (), reachedSandbox) :=
    makeDirectoriesUp_of_missing rfl rfl (by decide)
      (Tree.find_absolute ["", "missing", "..", "sandbox"] (by decide) (by cbv))
      (by decide) root
      (Tree.find_absolute ["", "missing", "..", "sandbox"] (by decide) (by cbv))
      (Tree.find_absolute ["", "missing", "..", "sandbox"] (by decide) (by cbv))
  rw [makeDirectories, levels]
  exact makeDirectoriesUp_of_missing rfl rfl (by decide)
    (Tree.find_absolute ["", "missing", "..", "sandbox", "sources"] (by decide) (by cbv))
    (by decide) sandbox
    (Tree.find_absolute ["", "missing", "..", "sandbox", "sources"] (by decide) (by cbv))
    (Tree.find_absolute ["", "missing", "..", "sandbox", "sources"] (by decide) (by cbv))

/-- A reset without a seed leaves an old source where it was.  The path of the sandbox directory
leads nowhere at first, so nothing is removed, and afterwards it leads to what was there. -/
theorem reset_leaves_old : ∃ after,
    staleSandbox.pathExists (inside "/missing/..").sandboxDir = false ∧
      (inside "/missing/..").reset .none staleSandbox = (.ok (), after) ∧
      after.find (inside "/missing/..").sandboxDir = .ok (.present ["sandbox"] .directory) ∧
      after.tree.lookup ["Old.java", "sources", "sandbox"] =
        some (.file 0 ByteArray.empty false) := by
  have nowhere : staleSandbox.find (inside "/missing/..").sandboxDir = .error .notFound :=
    Tree.find_absolute ["", "missing", "..", "sandbox"] (by decide) (by cbv)
  have missing : staleSandbox.pathExists (inside "/missing/..").sandboxDir = false := by
    rw [Disk.pathExists, Disk.entryAt?, nowhere]
  have asked : (Task.ask (·.pathExists (inside "/missing/..").sandboxDir) : Task Bool)
      staleSandbox = (.ok false, staleSandbox) := by
    rw [Task.ask, missing]
  have ends : makeDirectories (inside "/missing/..").classDir reachedSandbox =
      (.ok (), reachedSandbox) :=
    makeDirectories_of_present rfl (by decide)
      (Tree.find_absolute ["", "missing", "..", "sandbox", "classes"] (by decide) (by cbv))
      (Tree.find_absolute ["", "missing", "..", "sandbox", "classes"] (by decide) (by cbv))
  have sows : (inside "/missing/..").sow .none reachedSandbox = (.ok (), reachedSandbox) := rfl
  obtain ⟨fresh, ready⟩ := ensureReady_of_steps (pathExists_of_missing missing)
    makeDirectories_staleSandbox sows ends
  refine ⟨reachedSandbox, missing, ?_, ?_, rfl⟩
  · rw [reset, Effect.bind_of_ok asked, if_neg (by simp)]
    exact (Effect.bind_of_ok ready).trans rfl
  · exact Tree.find_absolute ["", "missing", "..", "sandbox"] (by decide) (by cbv)

end Workspace

end SnippetSandbox
