import SnippetSandbox.Proofs.Workspace.Additions
import SnippetSandbox.Proofs.Workspace.Reset

/-!
# Making a workspace ready after failures

The source directory is made first and sown afterwards.  That it is there is the only sign
that it has been sown, and a call that fails in between leaves this sign behind.  So the first
call that succeeds sows in full when no call before it got as far as making the source
directory; otherwise it leaves the source directory as the call that made it.
-/

namespace SnippetSandbox.Workspace

open FileSystem

variable {root : String} {ground : Place} {back : List String} {seed : Seed}
variable {workspace : Workspace} {start before after : Disk} {answer : Except Failure Bool}

theorem ensureReady_of_present (present : before.pathExists workspace.sourceDir = true)
    (done : workspace.ensureReady seed before = (answer, after)) :
    (∃ told, makeDirectories workspace.classDir before = (told, after)) ∧
      ∀ fresh, answer = .ok fresh → fresh = false := by
  have asked : (Task.ask (·.pathExists workspace.sourceDir) : Task Bool) before =
      (.ok true, before) := by
    rw [Task.ask, present]
  rw [ensureReady, Effect.bind_of_ok asked] at done
  dsimp only at done
  rw [if_neg (by simp)] at done
  rcases Effect.bind_done done with ⟨failure, failed, rfl⟩ | ⟨⟨⟩, last, made, done⟩
  · obtain ⟨told, refused, -⟩ := reportedFor_done failed
    exact ⟨⟨told, refused⟩, by rintro _ ⟨⟩⟩
  · cases done
    exact ⟨⟨_, reportedFor_ok made⟩, fun fresh same => (Except.ok.inj same).symm⟩

/-- Of a source directory that is missing, nothing is sown before it has been made. -/
theorem ensureReady_of_absent (absent : before.pathExists workspace.sourceDir = false)
    (done : workspace.ensureReady seed before = (answer, after)) :
    (∃ cause, makeDirectories workspace.sourceDir before = (.error cause, after) ∧
      ∃ failure, answer = .error failure) ∨
    ∃ made, makeDirectories workspace.sourceDir before = (.ok (), made) ∧ made.Extends after := by
  have asked : (Task.ask (·.pathExists workspace.sourceDir) : Task Bool) before =
      (.ok false, before) := by
    rw [Task.ask, absent]
  rw [ensureReady, Effect.bind_of_ok asked] at done
  dsimp only at done
  rw [if_pos (by simp)] at done
  rcases Effect.bind_done done with ⟨failure, failed, rfl⟩ | ⟨⟨⟩, made, makes, rest⟩
  · obtain ⟨_ | _, refused, same⟩ := reportedFor_done failed
    · exact .inl ⟨_, refused, failure, rfl⟩
    · cases same
  · refine .inr ⟨made, reportedFor_ok makes, ?_⟩
    refine Effect.Relates.states ?_ rest
    refine .bind .trans (extends_sow workspace seed) fun _ => ?_
    exact .bind .trans (relates_reportedFor (.makeDirectories _) _) fun _ => .refl

/-- Making a directory that the sandbox directory has already changes nothing in it. -/
theorem same_of_makeDirectories {name : String} (anchored : IsAnchored root ground back before)
    (proper : Path.IsProper name)
    (there : before.tree.lookup (name :: sandboxPlace ground back) = some .directory)
    {told : Except Cause Unit}
    (done : makeDirectories (Path.join (inside root).sandboxDir name) before = (told, after))
    {place : Place} (isInside : name :: sandboxPlace ground back <:+ place) :
    after.tree.lookup place = before.tree.lookup place := by
  have properName : ∀ other ∈ [name], Path.IsProper other := by simpa using proper
  have spelling : (sandboxNames back ++ [name]).reverse ++ ground =
      name :: sandboxPlace ground back := by simp [sandboxPlace]
  have plain : before.tree.IsPlainBelow ground (sandboxNames back ++ [name]) := by
    refine anchored.noLink.concat fun target isLink => ?_
    cases there.symm.trans isLink
  obtain ⟨front, reaches, written⟩ := anchored.spelled properName
  have adds := (Disk.AddsDirectories.makeDirectories _).states done
  rcases adds.spelled_below written reaches (properAll anchored.properNames properName)
    plain place with same | ⟨free, -, part, isPrefix, -, rfl⟩
  · exact same
  · rcases List.prefix_concat_iff.mp isPrefix with rfl | isPrefix
    · cases (spelling ▸ free).symm.trans there
    · have around := isInside.trans (spelled_suffix isPrefix ground)
      exact absurd around.length_le (by simp [sandboxPlace])

/-- Once the source directory is there, whatever call follows leaves it as it is, and reports
that it has sown nothing. -/
theorem ensureReady_again (anchored : IsAnchored root ground back before)
    (there : before.tree.lookup ("sources" :: sandboxPlace ground back) = some .directory)
    (done : (inside root).ensureReady seed before = (answer, after)) :
    (∀ place, "sources" :: sandboxPlace ground back <:+ place →
      after.tree.lookup place = before.tree.lookup place) ∧
      ∀ fresh, answer = .ok fresh → fresh = false := by
  cases present : before.pathExists (inside root).sourceDir with
  | true =>
      obtain ⟨⟨told, made⟩, stale⟩ := ensureReady_of_present present done
      refine ⟨fun place isInside => ?_, stale⟩
      obtain ⟨other, entry, found⟩ := Disk.pathExists_iff.mp present
      have proper : ∀ name ∈ ["sources"], Path.IsProper name := by decide
      obtain ⟨holder, leads⟩ := Tree.leads_of_find_joinAll proper found
      obtain ⟨rfl, -⟩ := anchored.place_eq leads
      refine Disk.AddsDirectories.makeDirectories_name leads (by decide) made place ?_
      rintro rfl
      have same := isInside.eq_of_length (by simp)
      exact absurd (List.head_eq_of_cons_eq same) (by decide)
  | false =>
      rcases ensureReady_of_absent present done with ⟨cause, failed, failure, rfl⟩ | ⟨made, makes, -⟩
      · exact ⟨fun _ => same_of_makeDirectories anchored (by decide) there failed, nofun⟩
      · -- The path would have led to the source directory before.
        have first := makesInside anchored (by decide) (by simp [there]) makes
        have found := (anchored.leadsInside (by decide) first.plain there).find first.usable
        exact Bool.noConfusion (present.symm.trans (Disk.pathExists_iff.mpr ⟨_, _, found⟩))

/-- A call that succeeds on a missing source directory makes it and sows it in full. -/
theorem ensureReady_sows {fresh : Bool} (named : before.tree.IsWellNamed)
    (anchored : IsAnchored root ground back before)
    (missing : before.tree.lookup ("sources" :: sandboxPlace ground back) = none)
    (apart : seed.IsApart (sandboxPlace ground back) before)
    (done : (inside root).ensureReady seed before = (.ok fresh, after)) (inner : List String) :
    (after.tree.lookup (inner.reverse ++ "sources" :: sandboxPlace ground back)).map
      Entry.likeness = seed.layout before ("sources" :: inner) := by
  obtain ⟨made, sown, makes, sows, ends⟩ :=
    ensureReady_done (pathExists_of_noSources anchored missing) done
  have first := makesInside anchored (by decide) (by simp [missing]) makes
  have namedMade := ((Disk.Extends.makeDirectories _).states makes).named named
  have keepsLater {later : Disk}
      (sows : made.Sows ("sources" :: sandboxPlace ground back) (seed.shows before) later) :
      before.KeepsOutside (sandboxPlace ground back) later :=
    first.keeps.trans (sows.keepsOutside (List.suffix_cons _ _))
  obtain ⟨sows, isSown⟩ := sow_done (first.isFallow anchored missing seed before)
    (fun later sows => apart later (keepsLater sows))
    (fun later sows => sows.wellNamed namedMade first.made) sows
  have directory := sows.keepsDirectory first.sandbox
  have anchoredSown : IsAnchored root ground back sown :=
    anchored.kept (keepsLater sows) (by simp [directory])
  have leads := anchoredSown.leads first.plainNames directory
  rw [Disk.AddsDirectories.makeDirectories_name leads (by decide) ends]
  · exact first.sources_of_sown anchored missing sows isSown inner
  · intro same
    exact absurd (@spelled_inj _ _ _ [] _ same).1 (by decide)

theorem ensureReady_sources (anchored : IsAnchored root ground back before)
    (missing : before.tree.lookup ("sources" :: sandboxPlace ground back) = none)
    (done : (inside root).ensureReady seed before = (answer, after)) :
    after.tree.lookup ("sources" :: sandboxPlace ground back) = none ∨
      after.tree.lookup ("sources" :: sandboxPlace ground back) = some .directory := by
  rcases ensureReady_of_absent (pathExists_of_noSources anchored missing) done with
    ⟨cause, failed, -⟩ | ⟨made, makes, adds⟩
  · have adds := (Disk.AddsDirectories.makeDirectories _).states failed
    rcases adds.places ("sources" :: sandboxPlace ground back) with same | ⟨-, isMade, -⟩
    · exact .inl (same.trans missing)
    · exact .inr isMade
  · have first := makesInside anchored (by decide) (by simp [missing]) makes
    exact .inr (adds.builds.keeps _ _ rfl first.made)

/-- Whatever has changed, nobody has touched the source directory or what leads to it. -/
structure LeavesSources (root : String) (ground : Place) (back : List String)
    (before after : Disk) : Prop where
  named : after.tree.IsWellNamed
  anchored : IsAnchored root ground back after
  sources : ∀ place, "sources" :: sandboxPlace ground back <:+ place →
    after.tree.lookup place = before.tree.lookup place

/-- Calls have failed, each at any point, and others may have been at work in between. -/
inductive Retries (root : String) (ground : Place) (back : List String) (seed : Seed)
    (start : Disk) : Disk → Prop
  | begin : Retries root ground back seed start start
  | leave {before after : Disk} (tries : Retries root ground back seed start before)
      (leaves : LeavesSources root ground back before after) :
      Retries root ground back seed start after
  | fail {before after : Disk} {failure : Failure}
      (tries : Retries root ground back seed start before)
      (failed : (inside root).ensureReady seed before = (.error failure, after)) :
      Retries root ground back seed start after

/-- One of the failed calls made the source directory, and it is as this call has left it. -/
def IsLeftBehind (root : String) (ground : Place) (back : List String) (seed : Seed)
    (start now : Disk) : Prop :=
  ∃ before after failure, Retries root ground back seed start before ∧
    before.tree.lookup ("sources" :: sandboxPlace ground back) = none ∧
    (inside root).ensureReady seed before = (.error failure, after) ∧
    after.tree.lookup ("sources" :: sandboxPlace ground back) = some .directory ∧
    ∀ place, "sources" :: sandboxPlace ground back <:+ place →
      now.tree.lookup place = after.tree.lookup place

theorem IsLeftBehind.stays (left : IsLeftBehind root ground back seed start before)
    (same : ∀ place, "sources" :: sandboxPlace ground back <:+ place →
      after.tree.lookup place = before.tree.lookup place) :
    IsLeftBehind root ground back seed start after := by
  obtain ⟨first, second, failure, tries, missing, failed, made, kept⟩ := left
  exact ⟨first, second, failure, tries, missing, failed, made,
    fun place isInside => (same place isInside).trans (kept place isInside)⟩

theorem IsLeftBehind.sources (left : IsLeftBehind root ground back seed start before) :
    before.tree.lookup ("sources" :: sandboxPlace ground back) = some .directory := by
  obtain ⟨_, _, _, -, -, -, made, kept⟩ := left
  exact (kept _ (List.suffix_refl _)).trans made

/-- After failures the source directory is still missing, or one of them has left it behind. -/
theorem Retries.sources (tries : Retries root ground back seed start before)
    (named : start.tree.IsWellNamed) (anchored : IsAnchored root ground back start)
    (missing : start.tree.lookup ("sources" :: sandboxPlace ground back) = none) :
    before.tree.IsWellNamed ∧ IsAnchored root ground back before ∧
      (before.tree.lookup ("sources" :: sandboxPlace ground back) = none ∨
        IsLeftBehind root ground back seed start before) := by
  induction tries with
  | begin => exact ⟨named, anchored, .inl missing⟩
  | leave tries leaves ih =>
      obtain ⟨-, -, isMissing | left⟩ := ih
      · exact ⟨leaves.named, leaves.anchored,
          .inl ((leaves.sources _ (List.suffix_refl _)).trans isMissing)⟩
      · exact ⟨leaves.named, leaves.anchored, .inr (left.stays leaves.sources)⟩
  | fail tries failed ih =>
      obtain ⟨namedBefore, anchoredBefore, isMissing | left⟩ := ih
      all_goals
        have adds := (extends_ensureReady (inside root) seed).states failed
        refine ⟨adds.named namedBefore, anchoredBefore.extended adds, ?_⟩
      · refine (ensureReady_sources anchoredBefore isMissing failed).imp_right fun made => ?_
        exact ⟨_, _, _, tries, isMissing, failed, made, fun _ _ => rfl⟩
      · exact .inr (left.stays (ensureReady_again anchoredBefore left.sources failed).1)

/-- The first call that succeeds has sown whatever the seed has to show, and nothing else, when
it finds no source directory.  When it finds one, it is what a call before it has left behind,
and it stays so. -/
theorem ensureReady_after_failures {fresh : Bool} (named : start.tree.IsWellNamed)
    (anchored : IsAnchored root ground back start)
    (missing : start.tree.lookup ("sources" :: sandboxPlace ground back) = none)
    (tries : Retries root ground back seed start before)
    (apart : seed.IsApart (sandboxPlace ground back) before)
    (done : (inside root).ensureReady seed before = (.ok fresh, after)) :
    (before.tree.lookup ("sources" :: sandboxPlace ground back) = none ∧
      ∀ inner, (after.tree.lookup (inner.reverse ++ "sources" :: sandboxPlace ground back)).map
        Entry.likeness = seed.layout before ("sources" :: inner)) ∨
    (fresh = false ∧ IsLeftBehind root ground back seed start before ∧
      IsLeftBehind root ground back seed start after) := by
  obtain ⟨namedBefore, anchoredBefore, isMissing | left⟩ := tries.sources named anchored missing
  · exact .inl ⟨isMissing, ensureReady_sows namedBefore anchoredBefore isMissing apart done⟩
  · obtain ⟨same, stale⟩ := ensureReady_again anchoredBefore left.sources done
    exact .inr ⟨stale fresh rfl, left, left.stays same⟩

/-- The disk with an emptied sandbox directory, when there is no space for the next operation. -/
def refusedSandbox : Disk :=
  { unlinkedSandbox with faults := [some ⟨.noSpace, 0⟩] }

theorem ensureReady_refusedSandbox (seed : Seed) :
    (inside "/").ensureReady seed refusedSandbox =
      (.error (.fileSystem (inside "/").sourceDir .noSpace), unlinkedSandbox) := by
  have asked : (Task.ask (·.pathExists (inside "/").sourceDir) : Task Bool) refusedSandbox =
      (.ok false, refusedSandbox) := by
    have sameFind : refusedSandbox.find (inside "/").sourceDir =
        .ok (.absent ["sources", "sandbox"] false) := find_unlinkedSandbox
    rw [Task.ask, Disk.pathExists, Disk.entryAt?, sameFind]
  have refused : makeDirectories (inside "/").sourceDir refusedSandbox =
      (.error .noSpace, unlinkedSandbox) := by
    have strikes : refusedSandbox.nextFault = (some ⟨.noSpace, 0⟩, unlinkedSandbox) := rfl
    refine makeDirectories_of_fault strikes (by decide) (by decide) ?_
    rw [Disk.isDirectory, Disk.entryAt?, find_unlinkedSandbox]
  rw [ensureReady, Effect.bind_of_ok asked]
  dsimp only
  rw [if_pos (by simp)]
  refine Effect.bind_of_error ?_
  rw [Operation.reportedFor, refused]

theorem isApart_unlinkedSandbox :
    (Seed.directory "/kept").IsApart (sandboxPlace [] []) unlinkedSandbox ∧
      (Seed.directory "/kept").shows unlinkedSandbox ["A.java"] =
        some (.file 0 ByteArray.empty false) := by
  have named : linkedSandbox.tree.IsWellNamed := .of_entries (by decide)
  have keeps := (emptyDirectory_done named isAnchored_linkedSandbox
    emptyDirectory_linkedSandbox).2.1.keepsOutside
  refine ⟨isApart_linkedSandbox.kept keeps, ?_⟩
  have found : unlinkedSandbox.find (Path.joinAll "/kept" ["A.java"]) =
      .ok (.present ["A.java", "kept"] (.file 0 ByteArray.empty false)) :=
    Tree.find_absolute ["", "kept", "A.java"] (by decide) (by cbv)
  have isFile : unlinkedSandbox.entryAt? (Path.joinAll "/kept" ["A.java"]) =
      .ok (.file 0 ByteArray.empty false) := by rw [Disk.entryAt?, found]
  exact Disk.seen?_of_entryAt? isFile

/-- A call that is refused at once costs nothing: the next one puts the seed there. -/
theorem ensureReady_after_failures_refused : ∃ fresh after,
    Retries "/" [] [] (.directory "/kept") refusedSandbox unlinkedSandbox ∧
      (inside "/").ensureReady (.directory "/kept") unlinkedSandbox = (.ok fresh, after) ∧
      (after.tree.lookup ["A.java", "sources", "sandbox"]).map Entry.likeness =
        some (.file 0 ByteArray.empty false) := by
  have named : refusedSandbox.tree.IsWellNamed := .of_entries (by decide)
  have tries : Retries "/" [] [] (.directory "/kept") refusedSandbox unlinkedSandbox :=
    .fail .begin (ensureReady_refusedSandbox _)
  obtain ⟨apart, isShown⟩ := isApart_unlinkedSandbox
  obtain ⟨fresh, after, ready⟩ := ensureReady_unlinkedSandbox
  refine ⟨fresh, after, tries, ready, ?_⟩
  rcases ensureReady_after_failures named (isAnchored_root nofun) rfl tries apart ready with
    ⟨-, layout⟩ | ⟨-, left, -⟩
  · have sown := layout ["A.java"]
    rw [Seed.layout, if_pos rfl, if_neg (by simp), if_pos (by decide), isShown] at sown
    exact sown
  · cases left.sources

/-- A disk with nothing but an empty sandbox directory, and what a call makes there before it
misses the seed. -/
def bareSandbox : Disk :=
  { tree := ⟨[("sandbox", .directory [])], 1⟩
    current := [] }

def unseededSandbox : Disk :=
  { bareSandbox with tree := bareSandbox.tree.put ["sources", "sandbox"] .directory }

theorem ensureReady_bareSandbox :
    (inside "/").ensureReady (.directory "/kept") bareSandbox =
      (.error (.fileSystem "/kept" .notFound), unseededSandbox) := by
  have asked : (Task.ask (·.pathExists (inside "/").sourceDir) : Task Bool) bareSandbox =
      (.ok false, bareSandbox) := by
    have absent : bareSandbox.find (inside "/").sourceDir =
        .ok (.absent ["sources", "sandbox"] false) :=
      Tree.find_absolute ["", "sandbox", "sources"] (by decide) (by cbv)
    rw [Task.ask, Disk.pathExists, Disk.entryAt?, absent]
  have makes : makeDirectories (inside "/").sourceDir bareSandbox = (.ok (), unseededSandbox) :=
    makeDirectoriesUp_of_absent _ rfl (by decide)
      (Tree.find_absolute ["", "sandbox", "sources"] (by decide) (by cbv))
  have missed : readDirectory "/kept" unseededSandbox = (.error .notFound, unseededSandbox) := by
    have absent : unseededSandbox.find "/kept" = .ok (.absent ["kept"] false) :=
      Tree.find_absolute ["", "kept"] (by decide) (by cbv)
    exact attempt_of_error rfl (by rw [absent])
  rw [ensureReady, Effect.bind_of_ok asked]
  dsimp only
  rw [if_pos (by simp), Effect.bind_of_ok (reportedFor_of_ok makes)]
  refine Effect.bind_of_error ?_
  change copyTree (4095 + 1) "/kept" (inside "/").sourceDir unseededSandbox = _
  rw [copyTree]
  refine Effect.bind_of_error ?_
  rw [Operation.reportedFor, missed]

theorem leavesSources_unseededSandbox :
    LeavesSources "/" [] [] unseededSandbox unsownSandbox where
  named := .of_entries (by decide)
  anchored := isAnchored_root nofun
  sources place isInside := by
    by_cases same : place = ["sources", "sandbox"]
    · rw [same]
      rfl
    · have nothing (tree : Tree) (empty : ∀ item ∈ tree.entriesBelow [],
          ["sources", "sandbox"] <:+ item.1 → item.1 = ["sources", "sandbox"]) :
          tree.lookup place = none := by
        rw [Option.eq_none_iff_forall_ne_some]
        intro entry found
        refine same (empty _ (Tree.mem_entriesBelow ?_ found) isInside)
        rintro rfl
        exact absurd isInside.length_le (by decide)
      rw [nothing _ (by decide), nothing _ (by decide)]

/-- Once the seed has appeared, the next call finds the source directory, succeeds, and does not
put the seed there. -/
theorem ensureReady_forgets_seed : ∃ failure after,
    bareSandbox.tree.lookup ["sources", "sandbox"] = none ∧
      (inside "/").ensureReady (.directory "/kept") bareSandbox =
        (.error failure, unseededSandbox) ∧
      LeavesSources "/" [] [] unseededSandbox unsownSandbox ∧
      (Seed.directory "/kept").IsApart (sandboxPlace [] []) unsownSandbox ∧
      (Seed.directory "/kept").shows unsownSandbox ["A.java"] =
        some (.file 0 ByteArray.empty false) ∧
      (inside "/").ensureReady (.directory "/kept") unsownSandbox = (.ok false, after) ∧
      after.tree.lookup ["A.java", "sources", "sandbox"] = none := by
  have present : unsownSandbox.pathExists (inside "/").sourceDir = true :=
    Disk.pathExists_iff.mpr ⟨["sources", "sandbox"], .directory,
      Tree.find_absolute ["", "sandbox", "sources"] (by decide) (by cbv)⟩
  have asked : (Task.ask (·.pathExists (inside "/").sourceDir) : Task Bool) unsownSandbox =
      (.ok true, unsownSandbox) := by
    rw [Task.ask, present]
  obtain ⟨after, ends, empty⟩ : ∃ after,
      makeDirectories (inside "/").classDir unsownSandbox = (.ok (), after) ∧
        after.tree.lookup ["A.java", "sources", "sandbox"] = none :=
    ⟨_, makeDirectoriesUp_of_absent _ rfl (by decide)
      (Tree.find_absolute ["", "sandbox", "classes"] (by decide) (by cbv)), rfl⟩
  have keeps : unlinkedSandbox.KeepsOutside (sandboxPlace [] []) unsownSandbox :=
    .of_inside rfl fun _ apart => Tree.lookup_put _ _ apart
  obtain ⟨apart, isShown⟩ := isApart_unlinkedSandbox
  refine ⟨_, after, rfl, ensureReady_bareSandbox, leavesSources_unseededSandbox,
    apart.kept keeps, ?_, ?_, empty⟩
  · rw [apart _ keeps ["A.java"] (by decide), isShown]
  · rw [ensureReady, Effect.bind_of_ok asked]
    dsimp only
    rw [if_neg (by simp)]
    exact (Effect.bind_of_ok (reportedFor_of_ok ends)).trans rfl

end SnippetSandbox.Workspace
