import SnippetSandbox.Proofs.Workspace.Anchored
import SnippetSandbox.Workspace.Ready

/-!
# What making a workspace ready adds to the disk

Directories are made and files are filled, and nothing else happens, whether all of it
succeeds or some of it is refused.  So every file stays the file it was, whatever its bytes
are now, everything new has a name that an entry can have, and a sandbox directory that had
one place still has it.
-/

namespace SnippetSandbox

open FileSystem

namespace FileSystem

section Names

variable {tree : Tree} {purpose : Purpose} {place : Place} {slash : Bool}

/-- Where a walk ends at nothing, an entry could have the name it ends with. -/
theorem walk_absent_proper {links : Nat} {here : Place} {segments : List String}
    (noSlash : ∀ segment ∈ segments, '/' ∉ segment.toList)
    (ended : walk tree purpose links here segments = .ok (.absent place slash)) :
    ∃ name around, place = name :: around ∧ Path.IsProper name := by
  have rest {segment : String} {segments : List String}
      (noSlash : ∀ other ∈ segment :: segments, '/' ∉ other.toList) :
      ∀ other ∈ segments, '/' ∉ other.toList :=
    fun other isMember => noSlash other (List.mem_cons_of_mem _ isMember)
  fun_induction walk tree purpose links here segments with
  | case3 links here segment segments isVoid ih => exact ih (rest noSlash) ended
  | case4 links here segments notVoid ih => exact ih (rest noSlash) ended
  | case7 links here segment segments notVoid notUp =>
      cases ended
      exact ⟨segment, here, rfl, noSlash segment List.mem_cons_self, by simpa using notVoid, notUp⟩
  | case11 here segment segments notVoid notUp _ _ target _ _ fewer ih =>
      refine ih (fun other isMember => ?_) ended
      rcases List.mem_append.mp isMember with isMember | isMember
      · exact Path.noSlash_of_mem_segments isMember
      · exact rest noSlash other isMember
  | case13 links here segment segments _ _ _ _ _ _ ih => exact ih (rest noSlash) ended
  | _ => cases ended

theorem Tree.find_absent_proper {current : Place} {path : String}
    (found : tree.find current purpose path = .ok (.absent place slash)) :
    ∃ name around, place = name :: around ∧ Path.IsProper name ∧
      tree.lookup around = some .directory := by
  obtain ⟨start, directory, walks⟩ := Tree.find_walk found
  have ended := found
  rw [walks tree purpose directory] at ended
  obtain ⟨name, around, rfl, proper⟩ :=
    walk_absent_proper (fun _ isMember => Path.noSlash_of_mem_segments isMember) ended
  exact ⟨name, around, rfl, proper, Tree.find_around found⟩

end Names

theorem openForWriting_present {path : String} {truncate executable : Bool}
    {before after : Disk} {place there : Place} {identity : Nat} {mode : Bool} {entry : Entry}
    (opened : openForWriting path truncate executable before =
      (.ok (.file there identity mode), after))
    (found : before.tree.find before.current .newFile path = .ok (.present place entry)) :
    ∃ content, entry = .file identity content mode := by
  obtain ⟨-, done⟩ := attempt_done opened
  rw [Disk.nextFault_tree, Disk.nextFault_current, found] at done
  cases entry with
  | file identity content executable =>
      cases done
      exact ⟨content, rfl⟩
  | directory | link | device => cases done

/-- The second disk differs from the first by new directories and files with names that an
entry can have, and by the bytes of files. -/
structure Disk.Extends (before after : Disk) : Prop where
  builds : before.Builds after
  files : ∀ place identity content executable,
    before.tree.lookup place = some (.file identity content executable) →
      ∃ other mode, after.tree.lookup place = some (.file identity other mode)
  named : before.tree.IsWellNamed → after.tree.IsWellNamed

namespace Disk.Extends

variable {before after : Disk}

theorem refl (disk : Disk) : disk.Extends disk :=
  ⟨.refl disk, fun _ _ _ _ found => ⟨_, _, found⟩, id⟩

theorem trans {first second third : Disk} (one : first.Extends second)
    (two : second.Extends third) : first.Extends third where
  builds := one.builds.trans two.builds
  files place identity content executable found := by
    obtain ⟨_, _, foundNext⟩ := one.files place identity content executable found
    exact two.files _ _ _ _ foundNext
  named := two.named ∘ one.named

theorem of_same (current : after.current = before.current)
    (same : ∀ place, after.tree.lookup place = before.tree.lookup place) :
    before.Extends after where
  builds := ⟨current, fun place => by rw [same]; exact .same⟩
  files place identity content executable found := ⟨content, executable, (same place).trans found⟩
  named wellNamed place entry found := wellNamed place entry ((same place).symm.trans found)

theorem nextFault (disk : Disk) : disk.Extends disk.nextFault.2 :=
  of_same disk.nextFault_current fun _ => by rw [disk.nextFault_tree]

/-- A directory or a file has come to a free name in a directory. -/
theorem of_new {name : String} {around : Place} {entry : Entry}
    (current : after.current = before.current) (proper : Path.IsProper name)
    (holder : before.tree.lookup around = some .directory)
    (free : before.tree.lookup (name :: around) = none)
    (there : after.tree.lookup (name :: around) = some entry)
    (isNew : Entry.Builds none (some entry))
    (same : ∀ other, other ≠ name :: around →
      after.tree.lookup other = before.tree.lookup other) : before.Extends after where
  builds := by
    refine ⟨current, fun place => ?_⟩
    by_cases here : place = name :: around
    · rw [here, free, there]
      exact isNew
    · rw [same place here]
      exact .same
  files place identity content executable found := by
    refine ⟨content, executable, ?_⟩
    rw [same place, found]
    rintro rfl
    cases free.symm.trans found
  named wellNamed place shown found := by
    by_cases here : place = name :: around
    · subst here
      intro other isMember
      rcases List.mem_cons.mp isMember with rfl | isMember
      · exact proper
      · exact wellNamed around .directory holder other isMember
    · exact wellNamed place shown ((same place here).symm.trans found)

theorem of_rewritten {place : Place} {identity : Nat} {content kept : ByteArray}
    {executable mode : Bool} (current : after.current = before.current)
    (found : before.tree.lookup place = some (.file identity content executable))
    (there : after.tree.lookup place = some (.file identity kept mode))
    (same : ∀ other, other ≠ place → after.tree.lookup other = before.tree.lookup other) :
    before.Extends after where
  builds := by
    refine ⟨current, fun other => ?_⟩
    by_cases here : other = place
    · rw [here, found, there]
      exact .written fun entry shown => ⟨_, _, _, (Option.some.inj shown).symm⟩
    · rw [same other here]
      exact .same
  files other identity content executable shown := by
    by_cases here : other = place
    · subst here
      cases found.symm.trans shown
      exact ⟨_, _, there⟩
    · exact ⟨content, executable, (same other here).trans shown⟩
  named wellNamed other entry shown := by
    by_cases here : other = place
    · exact here ▸ wellNamed place _ found
    · exact wellNamed other entry ((same other here).symm.trans shown)

theorem makeDirectory (path : String) :
    Effect.Relates Disk.Extends (FileSystem.makeDirectory path) := by
  intro before
  rcases done : FileSystem.makeDirectory path before with ⟨answer, after⟩
  rcases makeDirectory_cases done with ⟨-, rfl⟩ | ⟨-, place, slash, found, current, tree⟩
  · exact nextFault before
  · obtain ⟨name, around, rfl, proper, holder⟩ := Tree.find_absent_proper found
    have free : before.tree.lookup (name :: around) = none := Tree.find_ends found
    refine of_new current proper holder free ?_ .made ?_
    · rw [tree]
      exact Tree.lookup_put_self _ _ holder
    · intro other different
      rw [tree, before.tree.lookup_put_eq _ holder, if_neg different]
      split
      next below => exact (Tree.lookup_below (by simp [free]) below (Ne.symm different)).symm
      next => rfl

theorem makeDirectories (path : String) :
    Effect.Relates Disk.Extends (FileSystem.makeDirectories path) :=
  @relates_makeDirectoriesUp (fun _ => Disk.Extends) (fun _ => refl) (fun _ _ _ _ => trans)
    makeDirectory (fun _ adds => adds) _ path

theorem openForWriting (path : String) (truncate executable : Bool) :
    Effect.Relates Disk.Extends (FileSystem.openForWriting path truncate executable) := by
  intro before
  rcases opened : FileSystem.openForWriting path truncate executable before with
    ⟨cause | handle, after⟩
  · obtain ⟨current, tree⟩ := openForWriting_failed opened
    exact of_same current fun _ => by rw [tree]
  · obtain ⟨target, found, current, atEnd⟩ := openForWriting_done opened
    cases handle with
    | device kind =>
        obtain ⟨-, tree⟩ := atEnd
        exact of_same current fun _ => by rw [tree]
    | file place identity mode =>
        obtain ⟨rfl, content, there, rewritten⟩ := atEnd
        have held := Tree.find_ends found
        cases target with
        | absent place slash =>
            obtain ⟨name, around, rfl, proper, holder⟩ := Tree.find_absent_proper found
            exact of_new current proper holder held there (.written nofun) rewritten.same
        | present place entry =>
            obtain ⟨content, same⟩ := openForWriting_present opened found
            exact of_rewritten current (same ▸ held) there rewritten.same

/-- What is opened and then filled is one more file, or the same file with other bytes. -/
theorem fill (path : String) (executable : Bool) (bytes : ByteArray) :
    Effect.Relates Disk.Extends
      (FileSystem.openForWriting path true executable >>= fun handle =>
        storeBytes handle bytes) := by
  intro before
  rcases done : (FileSystem.openForWriting path true executable >>= fun handle =>
    storeBytes handle bytes) before with ⟨answer, after⟩
  rcases Effect.bind_done done with ⟨cause, failed, rfl⟩ | ⟨handle, between, opened, stored⟩
  · exact (openForWriting path true executable).states failed
  · have first := (openForWriting path true executable).states opened
    obtain ⟨current, stored⟩ := storeBytes_done stored
    refine first.trans ?_
    cases handle with
    | device kind => exact of_same current fun _ => by rw [stored]
    | file place identity mode =>
        obtain ⟨name, around, rfl, holder⟩ := openForWriting_inside opened
        obtain ⟨-, -, -, -, content, there, -⟩ := openForWriting_done opened
        obtain ⟨kept, tree, -⟩ := stored
        have writable : Entry.IsWritable (between.tree.lookup (name :: around)) := by
          intro entry shown
          exact ⟨_, _, _, Option.some.inj (shown.symm.trans there)⟩
        have rewritten := Tree.rewritten_put rfl holder writable identity kept mode
        have filled : after.tree.lookup (name :: around) = some (.file identity kept mode) := by
          rw [tree]
          exact Tree.lookup_put_self _ _ holder
        exact of_rewritten current there filled (tree ▸ rewritten.same)

theorem writeText (path text : String) :
    Effect.Relates Disk.Extends (FileSystem.writeText path text) :=
  fill path false text.toUTF8

theorem attempt {Result : Type} {action : Disk → Except Cause (Result × Disk)}
    (reads : ∀ disk result changed, action disk = .ok (result, changed) → changed = disk) :
    Effect.Relates Disk.Extends (FileSystem.attempt action) := by
  intro before
  rw [attempt_reads reads]
  exact nextFault before

theorem readDirectory (path : String) :
    Effect.Relates Disk.Extends (FileSystem.readDirectory path) := by
  refine attempt fun disk names changed took => ?_
  split at took <;> cases took
  rfl

theorem copyFile (source destination : String) :
    Effect.Relates Disk.Extends (FileSystem.copyFile source destination) := by
  refine .bind trans (attempt fun disk copied changed took => ?_) fun copied =>
    fill destination copied.2 copied.1
  split at took <;> cases took
  rfl

end Disk.Extends

end FileSystem

namespace Workspace

/-- Copying a directory only adds to the disk, whatever it finds and wherever it copies. -/
theorem extends_copyTree (levels : Nat) (source destination : String) :
    Effect.Relates Disk.Extends (copyTree levels source destination) := by
  induction levels generalizing source destination with
  | zero => exact .refl
  | succ levels ih =>
      refine .bind .trans (relates_reportedFor (.readDirectory source) source) fun names =>
        .forM .refl .trans (fun name => ?_) names
      refine .bind .trans (fun disk => .refl disk) fun isDirectory => ?_
      split
      next => exact .bind .trans (relates_reportedFor (.makeDirectories _) _) fun _ => ih _ _
      next => exact relates_reportedFor (.copyFile _ _) _

theorem extends_sow (workspace : Workspace) (seed : Seed) :
    Effect.Relates Disk.Extends (workspace.sow seed) := by
  cases seed with
  | none => exact .refl
  | bundled =>
      exact .forM .refl .trans (fun sample => relates_reportedFor (.writeText _ _) _) _
  | directory path => exact extends_copyTree pathLimit path workspace.sourceDir

/-- Making a workspace ready only adds to the disk, whether it succeeds or not. -/
theorem extends_ensureReady (workspace : Workspace) (seed : Seed) :
    Effect.Relates Disk.Extends (workspace.ensureReady seed) := by
  have completes : Effect.Relates Disk.Extends
      ((makeDirectories workspace.classDir).reportedFor workspace.classDir) :=
    relates_reportedFor (.makeDirectories _) _
  refine .bind .trans (fun disk => .refl disk) fun present => ?_
  dsimp only
  split
  next =>
    refine .bind .trans (relates_reportedFor (.makeDirectories _) _) fun _ => ?_
    refine .bind .trans (extends_sow workspace seed) fun _ => ?_
    exact .bind .trans completes fun _ => .refl
  next => exact .bind .trans completes fun _ => .refl

variable {root : String} {ground : Place} {back : List String} {before after : Disk}

theorem IsAnchored.extended (anchored : IsAnchored root ground back before)
    (adds : before.Extends after) : IsAnchored root ground back after where
  proper := anchored.proper
  reaches := by
    obtain ⟨front, spelled, reaches⟩ := anchored.reaches
    refine ⟨front, spelled, fun other keepsOther => ?_⟩
    rw [adds.builds.current]
    refine reaches other fun place entry passable notBelow found => ?_
    exact keepsOther place entry passable notBelow (adds.builds.keeps place entry passable found)
  noLink := fun front isPrefix some target =>
    (adds.builds.places _).ne_link (anchored.noLink front isPrefix some target)

end Workspace

end SnippetSandbox
