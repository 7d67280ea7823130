import SnippetSandbox.Proofs.Effect
import SnippetSandbox.Proofs.FileSystem.Resolve

/-!
# Files after they were removed or written

Removing a file leaves nothing at its path, whatever links led there.  A file
that was written has the written text, as long as nothing refuses the reading.
-/

namespace SnippetSandbox.FileSystem

/-- An operation done in one go either was refused or took place. -/
theorem attempt_cases {Result : Type} {action : Disk → Except Cause (Result × Disk)}
    {before after : Disk} {answer : Except Cause Result}
    (done : attempt action before = (answer, after)) :
    (∃ cause, answer = .error cause ∧ after = before.nextFault.2) ∨
      ∃ result, answer = .ok result ∧ action before.nextFault.2 = .ok (result, after) := by
  rw [attempt] at done
  split at done
  next fault rest next =>
    cases done
    exact .inl ⟨_, rfl, by rw [next]⟩
  next rest next =>
    split at done
    next found =>
      cases done
      exact .inr ⟨_, rfl, by rw [next]; exact found⟩
    next =>
      cases done
      exact .inl ⟨_, rfl, by rw [next]⟩

theorem attempt_done {Result : Type} {action : Disk → Except Cause (Result × Disk)}
    {before after : Disk} {result : Result} (done : attempt action before = (.ok result, after)) :
    before.nextFault.1 = none ∧ action before.nextFault.2 = .ok (result, after) := by
  rw [attempt] at done
  split at done
  next => cases done
  next rest fault =>
    split at done
    next found =>
      cases done
      exact ⟨by rw [fault], by rw [fault]; exact found⟩
    next => cases done

theorem attempt_of_ok {Result : Type} {action : Disk → Except Cause (Result × Disk)}
    {before after : Disk} {result : Result} (noFaults : before.faults = [])
    (took : action before = .ok (result, after)) : attempt action before = (.ok result, after) := by
  rw [attempt, Disk.nextFault, noFaults]
  simp only [took]

theorem attempt_of_error {Result : Type} {action : Disk → Except Cause (Result × Disk)}
    {before : Disk} {cause : Cause} (noFaults : before.faults = [])
    (refused : action before = .error cause) :
    attempt action before = (.error cause, before) := by
  rw [attempt, Disk.nextFault, noFaults]
  simp only [refused]

/-- An operation that only looks at the disk uses up a decision of the schedule. -/
theorem attempt_reads {Result : Type} {action : Disk → Except Cause (Result × Disk)}
    (reads : ∀ disk result changed, action disk = .ok (result, changed) → changed = disk)
    (before : Disk) : (attempt action before).2 = before.nextFault.2 := by
  rcases done : attempt action before with ⟨answer, after⟩
  rcases attempt_cases done with ⟨_, -, rfl⟩ | ⟨result, -, took⟩
  · rfl
  · exact reads _ _ _ took

@[simp] theorem Disk.nextFault_tree (disk : Disk) : disk.nextFault.2.tree = disk.tree := by
  rw [Disk.nextFault]
  split <;> rfl

@[simp] theorem Disk.nextFault_current (disk : Disk) :
    disk.nextFault.2.current = disk.current := by
  rw [Disk.nextFault]
  split <;> rfl

theorem Tree.find_cleared {tree : Tree} {current : Place} {path : String} {place : Place}
    {entry : Entry} (found : tree.find current .name path = .ok (.present place entry))
    (notDirectory : entry ≠ .directory) (other : Place) (left : Entry) :
    (tree.clear place).find current .content path ≠ .ok (.present other left) := by
  have there : tree.lookup place = some entry := Tree.find_ends found
  cases place with
  | nil => cases there.symm.trans tree.lookup_root; exact absurd rfl notDirectory
  | cons name around =>
      have noDirectory : tree.lookup (name :: around) ≠ some .directory := by
        rw [there]
        simpa using notDirectory
      obtain ⟨links, rest, plain, -, arrives⟩ :=
        Tree.find_arrives (fun _ apart => tree.lookup_clear apart) noDirectory found rfl
      rw [arrives]
      exact walk_missing plain (tree.lookup_clear_self (Tree.lookup_around there)) other left

/-- A file is removed where its name is, and it is no directory. -/
theorem removeFile_done {path : String} {before after : Disk}
    (removed : removeFile path before = (.ok (), after)) :
    ∃ place entry, before.tree.find before.current .name path = .ok (.present place entry) ∧
      entry ≠ .directory ∧ after.current = before.current ∧
      after.tree = before.tree.clear place := by
  obtain ⟨-, found⟩ := attempt_done removed
  rw [Disk.findName, Disk.nextFault_tree, Disk.nextFault_current] at found
  split at found
  next => cases found
  next place entry notDirectory target =>
    split at found
    next => cases found
    next =>
      cases found
      exact ⟨place, entry, target, fun same => notDirectory same, rfl, rfl⟩
  next => cases found
  next => cases found

theorem pathExists_removeFile {path : String} {before after : Disk}
    (removed : removeFile path before = (.ok (), after)) : after.pathExists path = false := by
  obtain ⟨place, entry, target, notDirectory, current, tree⟩ := removeFile_done removed
  have gone := Tree.find_cleared target notDirectory
  rw [Disk.pathExists, Disk.entryAt?, Disk.find, current, tree]
  split
  next shown =>
    split at shown
    next other left ended => exact absurd ended (gone other left)
    all_goals cases shown
  next => rfl

theorem readDirectory_done {path : String} {before after : Disk} {names : List String}
    (read : readDirectory path before = (.ok names, after)) :
    ∃ place, before.find path = .ok (.present place .directory) ∧
      names = before.tree.names place ∧ after = before.nextFault.2 := by
  obtain ⟨-, found⟩ := attempt_done read
  rw [Disk.find, Disk.nextFault_tree, Disk.nextFault_current] at found
  split at found
  next place target =>
    cases found
    exact ⟨place, target, rfl, rfl⟩
  next => cases found
  next => cases found
  next => cases found

/-- A directory or a link is removed where its path ends.  A directory is emptied at
least, and it stays only when its path leads nowhere then. -/
theorem removeTree_done {path : String} {before after : Disk}
    (removed : removeTree path before = (.ok (), after)) :
    ∃ place entry, before.tree.find before.current .entry path = .ok (.present place entry) ∧
      after.current = before.current ∧
      (after.tree = before.tree.clear place ∨
        entry = .directory ∧ ∀ other left,
          (before.tree.put place .directory).find before.current .entry path ≠
            .ok (.present other left)) := by
  obtain ⟨-, found⟩ := attempt_done removed
  rw [Disk.findLink, Disk.nextFault_tree, Disk.nextFault_current] at found
  split at found
  next place target =>
    refine ⟨place, .directory, target, ?_⟩
    dsimp only at found
    split at found
    next =>
      cases found
      exact ⟨rfl, .inl rfl⟩
    next gone =>
      cases found
      exact ⟨rfl, .inr ⟨rfl, fun other left ended => gone other left ended⟩⟩
  next place link target =>
    cases found
    exact ⟨place, .link link, target, rfl, .inl rfl⟩
  next => cases found
  next => cases found
  next => cases found

/-- A file has been copied when its bytes have been filled into the copy. -/
theorem copyFile_done {source destination : String} {before after : Disk}
    (copied : copyFile source destination before = (.ok (), after)) :
    ∃ identity content executable,
      before.entryAt? source = .ok (.file identity content executable) ∧
      (openForWriting destination true executable >>= fun handle => storeBytes handle content)
        before.nextFault.2 = (.ok (), after) := by
  obtain ⟨⟨bytes, executable⟩, between, read, filled⟩ := Effect.bind_ok copied
  obtain ⟨-, found⟩ := attempt_done read
  rw [Disk.entryAt?, Disk.find, Disk.nextFault_tree, Disk.nextFault_current] at found
  rw [Disk.entryAt?, Disk.find]
  split at found
  next identity content mode target =>
    cases found
    exact ⟨identity, bytes, executable, target, filled⟩
  next => cases found
  next => cases found

/-- Where no fault strikes, a file is copied by filling its bytes into the copy. -/
theorem copyFile_of_ok {source destination : String} {before after : Disk} {identity : Nat}
    {content : ByteArray} {executable : Bool} (noFaults : before.faults = [])
    (isFile : before.entryAt? source = .ok (.file identity content executable))
    (filled : (openForWriting destination true executable >>= fun handle =>
      storeBytes handle content) before = (.ok (), after)) :
    copyFile source destination before = (.ok (), after) := by
  have read (action : Disk → Except Cause ((ByteArray × Bool) × Disk))
      (took : action before = .ok ((content, executable), before)) :
      attempt action before = (.ok (content, executable), before) :=
    attempt_of_ok noFaults took
  exact (Effect.bind_of_ok (read _ (by rw [isFile]))).trans filled

/-- The entry that a path leads to is at the end of it. -/
theorem Disk.find_of_entryAt? {disk : Disk} {path : String} {entry : Entry}
    (found : disk.entryAt? path = .ok entry) :
    ∃ place, disk.find path = .ok (.present place entry) := by
  rw [entryAt?] at found
  split at found
  next place _ ended =>
    cases found
    exact ⟨place, ended⟩
  next => cases found
  next => cases found

theorem Disk.pathExists_iff {disk : Disk} {path : String} :
    disk.pathExists path = true ↔ ∃ place entry, disk.find path = .ok (.present place entry) := by
  constructor
  · intro existing
    rw [pathExists] at existing
    split at existing
    next entry found =>
      obtain ⟨place, found⟩ := find_of_entryAt? found
      exact ⟨place, entry, found⟩
    next => cases existing
  · rintro ⟨place, entry, found⟩
    rw [pathExists, entryAt?, found]

theorem Disk.entryAt?_of_isDirectory {disk : Disk} {path : String}
    (isDirectory : disk.isDirectory path = true) : disk.entryAt? path = .ok .directory := by
  rw [Disk.isDirectory] at isDirectory
  split at isDirectory
  next found => exact found
  next => cases isDirectory

theorem fromUTF8?_toUTF8 (text : String) : String.fromUTF8? text.toUTF8 = some text := by
  have valid : text.toUTF8.IsValidUTF8 := text.isValidUTF8
  rw [String.fromUTF8?, dif_pos valid]
  rfl

theorem Tree.find_inside {tree : Tree} {current : Place} {purpose : Purpose} {path : String}
    {target : Target} (found : tree.find current purpose path = .ok target)
    (notDirectory : target.entryAt? ≠ some .directory) :
    ∃ name around, target.place = name :: around ∧ tree.lookup around = some .directory := by
  have there := Tree.find_ends found
  have inside := Tree.find_around found
  cases shape : target.place with
  | nil =>
      rw [shape, Tree.lookup_root] at there
      exact absurd there.symm notDirectory
  | cons name around =>
      rw [shape] at inside
      exact ⟨name, around, rfl, inside⟩

/-- When the end of a path is neither a link nor a directory, the path leads there
also after that end has been changed to anything but a link. -/
theorem Tree.find_changed {tree changed : Tree} {current : Place} {path : String}
    {target : Target} {entry : Entry}
    (found : tree.find current .newFile path = .ok target)
    (noLink : ∀ link, target.entryAt? ≠ some (.link link))
    (noDirectory : target.entryAt? ≠ some .directory)
    (same : ∀ other, ¬ target.place <:+ other → changed.lookup other = tree.lookup other)
    (there : changed.lookup target.place = some entry)
    (notLink : ∀ link, entry ≠ .link link) :
    changed.find current .content path = .ok (.present target.place entry) := by
  obtain ⟨name, around, atPlace, -⟩ := Tree.find_inside found noDirectory
  rw [← Tree.find_ends found, atPlace] at noLink noDirectory
  rw [atPlace] at same there
  obtain ⟨links, rest, plain, atEnd, arrives⟩ :=
    Tree.find_arrives same noDirectory found atPlace
  rw [arrives, atEnd rfl noLink, atPlace]
  exact walk_entry plain there (.inl notLink)

/-- Nothing is there, or a file that can be given other bytes. -/
def Entry.IsWritable (found : Option Entry) : Prop :=
  ∀ entry, found = some entry → ∃ identity content executable,
    entry = .file identity content executable

namespace Entry.IsWritable

variable {found : Option Entry}

theorem ne_directory (writable : IsWritable found) : found ≠ some .directory := by
  intro shown
  obtain ⟨_, _, _, ⟨⟩⟩ := writable _ shown

theorem ne_link (writable : IsWritable found) (target : String) :
    found ≠ some (.link target) := by
  intro shown
  obtain ⟨_, _, _, ⟨⟩⟩ := writable _ shown

theorem ne_device (writable : IsWritable found) (kind : Device) :
    found ≠ some (.device kind) := by
  intro shown
  obtain ⟨_, _, _, ⟨⟩⟩ := writable _ shown

end Entry.IsWritable

/-- In the second tree a file at a place has these bytes.  Nothing or a file was there
before, and everything else is the same. -/
structure Tree.Rewritten (before after : Tree) (place : Place) (content : ByteArray) : Prop where
  writable : Entry.IsWritable (before.lookup place)
  there : ∃ identity executable, after.lookup place = some (.file identity content executable)
  same : ∀ other, other ≠ place → after.lookup other = before.lookup other

/-- A file that is put where nothing or a file was changes nothing else. -/
theorem Tree.rewritten_put {tree : Tree} {place around : Place} {name : String}
    (atPlace : place = name :: around) (directory : tree.lookup around = some .directory)
    (writable : Entry.IsWritable (tree.lookup place)) (identity : Nat) (content : ByteArray)
    (executable : Bool) :
    tree.Rewritten (tree.put place (.file identity content executable)) place content := by
  subst atPlace
  refine ⟨writable, ⟨identity, executable, tree.lookup_put_self _ directory⟩, ?_⟩
  intro other different
  rw [tree.lookup_put_eq _ directory, if_neg different]
  split
  next inside =>
    exact (lookup_below writable.ne_directory inside (Ne.symm different)).symm
  next => rfl

theorem Tree.Rewritten.trans {first second third : Tree} {place : Place}
    {content other : ByteArray} (one : first.Rewritten second place content)
    (two : second.Rewritten third place other) : first.Rewritten third place other where
  writable := one.writable
  there := two.there
  same := fun apart different => (two.same apart different).trans (one.same apart different)

theorem openForWriting_failed {path : String} {truncate executable : Bool} {before after : Disk}
    {cause : Cause}
    (failed : openForWriting path truncate executable before = (.error cause, after)) :
    after.current = before.current ∧ after.tree = before.tree := by
  rcases attempt_cases failed with ⟨_, _, rfl⟩ | ⟨_, ⟨⟩, _⟩
  exact ⟨before.nextFault_current, before.nextFault_tree⟩

/-- An opened file is at the end of its path, where nothing or a file was. -/
theorem openForWriting_done {path : String} {truncate executable : Bool} {before after : Disk}
    {handle : Handle}
    (opened : openForWriting path truncate executable before = (.ok handle, after)) :
    ∃ target, before.tree.find before.current .newFile path = .ok target ∧
      after.current = before.current ∧
      match handle with
      | .file place identity mode =>
          target.place = place ∧ ∃ content,
            after.tree.lookup place = some (.file identity content mode) ∧
            before.tree.Rewritten after.tree place content
      | .device kind => target.entryAt? = some (.device kind) ∧ after.tree = before.tree := by
  obtain ⟨-, done⟩ := attempt_done opened
  rw [Disk.nextFault_tree, Disk.nextFault_current] at done
  split at done
  next place identity content mode target =>
    cases done
    have found : before.tree.lookup place = some (.file identity content mode) :=
      Tree.find_ends target
    have writable : Entry.IsWritable (before.tree.lookup place) := by
      intro entry shown
      exact ⟨_, _, _, Option.some.inj (shown.symm.trans found)⟩
    obtain ⟨name, around, rfl, directory⟩ := Tree.find_inside target (by simp [Target.entryAt?])
    refine ⟨_, target, rfl, rfl, _, ?_, Tree.rewritten_put rfl directory writable _ _ _⟩
    exact Tree.lookup_put_self _ _ directory
  next place kind target =>
    cases done
    exact ⟨_, target, before.nextFault_current, rfl, before.nextFault_tree⟩
  next => cases done
  next place slash target =>
    cases done
    have free : before.tree.lookup place = none := Tree.find_ends target
    have writable : Entry.IsWritable (before.tree.lookup place) := by
      intro entry shown
      cases shown.symm.trans free
    obtain ⟨name, around, rfl, directory⟩ := Tree.find_inside target (by simp [Target.entryAt?])
    have created (other : Place) :=
      before.tree.lookup_create (name :: around) other ByteArray.empty executable
    have there := (created (name :: around)).trans (Tree.lookup_put_self _ _ directory)
    have rewritten := Tree.rewritten_put rfl directory writable before.tree.nextIdentity
      ByteArray.empty executable
    refine ⟨_, target, rfl, rfl, ByteArray.empty, there, writable, ⟨_, _, there⟩, ?_⟩
    intro other different
    exact (created other).trans (rewritten.same other different)
  next => cases done

theorem openForWriting_inside {path : String} {truncate executable : Bool} {before after : Disk}
    {place : Place} {identity : Nat} {mode : Bool}
    (opened : openForWriting path truncate executable before =
      (.ok (.file place identity mode), after)) :
    ∃ name around, place = name :: around ∧ after.tree.lookup around = some .directory := by
  obtain ⟨target, found, -, rfl, content, there, rewritten⟩ := openForWriting_done opened
  obtain ⟨name, around, atPlace, -⟩ :=
    Tree.find_inside found (Tree.find_ends found ▸ rewritten.writable.ne_directory)
  exact ⟨name, around, atPlace, Tree.lookup_around (atPlace ▸ there)⟩

/-- Storing bytes keeps the place of an opened file, and it fills a file with all of them or,
when it fails, with the first ones. -/
theorem storeBytes_done {handle : Handle} {bytes : ByteArray} {before after : Disk}
    {answer : Except Cause Unit} (done : storeBytes handle bytes before = (answer, after)) :
    after.current = before.current ∧
      match handle with
      | .file place identity executable => ∃ kept,
          after.tree = before.tree.put place (.file identity kept executable) ∧
          (∃ count, kept = bytes.extract 0 count) ∧ (answer = .ok () → kept = bytes)
      | .device _ => after.tree = before.tree := by
  cases handle with
  | file place identity executable =>
      simp only [storeBytes] at done
      split at done
      next =>
        cases done
        have whole : bytes = bytes.extract 0 bytes.size := ByteArray.extract_zero_size.symm
        exact ⟨before.nextFault_current, _, by simp, ⟨_, whole⟩, fun _ => rfl⟩
      next =>
        cases done
        refine ⟨before.nextFault_current, _, congrArg (Tree.put · place _) before.nextFault_tree,
          ⟨_, rfl⟩, ?_⟩
        rintro ⟨⟩
  | device kind =>
      simp only [storeBytes] at done
      split at done
      next =>
        cases done
        exact ⟨before.nextFault_current, before.nextFault_tree⟩
      next =>
        split at done <;>
        · cases done
          exact ⟨before.nextFault_current, before.nextFault_tree⟩

/-- Opening a file and storing bytes in it, whether that fails or not: either the tree is
the same, as it is when the path leads to a device, or the path leads to a file now. -/
theorem fill_done {path : String} {executable : Bool} {bytes : ByteArray} {before after : Disk}
    {answer : Except Cause Unit}
    (done : (openForWriting path true executable >>= fun handle => storeBytes handle bytes) before =
      (answer, after)) :
    after.current = before.current ∧
      (after.tree = before.tree ∧ (answer = .ok () → ∃ place kind,
          before.tree.find before.current .newFile path = .ok (.present place (.device kind))) ∨
        ∃ target content, before.tree.find before.current .newFile path = .ok target ∧
          before.tree.Rewritten after.tree target.place content ∧
          (∃ count, content = bytes.extract 0 count) ∧ (answer = .ok () → content = bytes)) := by
  rcases Effect.bind_done done with ⟨cause, failed, rfl⟩ | ⟨handle, between, opened, stored⟩
  · obtain ⟨current, tree⟩ := openForWriting_failed failed
    refine ⟨current, .inl ⟨tree, ?_⟩⟩
    rintro ⟨⟩
  · obtain ⟨target, found, current, atEnd⟩ := openForWriting_done opened
    obtain ⟨stays, stored⟩ := storeBytes_done stored
    refine ⟨stays.trans current, ?_⟩
    cases handle with
    | file place identity mode =>
        obtain ⟨rfl, content, there, rewritten⟩ := atEnd
        obtain ⟨kept, changed, whole⟩ := stored
        obtain ⟨name, around, atPlace, holder⟩ := openForWriting_inside opened
        have writable : Entry.IsWritable (between.tree.lookup target.place) := by
          intro entry shown
          exact ⟨_, _, _, Option.some.inj (shown.symm.trans there)⟩
        have again := Tree.rewritten_put atPlace holder writable identity kept mode
        rw [← changed] at again
        exact .inr ⟨target, kept, found, rewritten.trans again, whole⟩
    | device kind =>
        obtain ⟨isDevice, same⟩ := atEnd
        refine .inl ⟨stored.trans same, fun _ => ?_⟩
        cases target with
        | present place entry =>
            obtain rfl := Option.some.inj isDevice
            exact ⟨place, kind, found⟩
        | absent place slash => cases isDevice

/-- An opened file has the mode that was asked for, unless it was there before. -/
theorem openForWriting_mode {path : String} {truncate executable : Bool} {before after : Disk}
    {handle : Handle}
    (opened : openForWriting path truncate executable before = (.ok handle, after))
    {target : Target} (found : before.tree.find before.current .newFile path = .ok target)
    (alike : ∀ entry, target.entryAt? = some entry →
      ∃ identity content, entry = .file identity content executable) :
    ∃ identity, handle = .file target.place identity executable := by
  obtain ⟨-, done⟩ := attempt_done opened
  rw [Disk.nextFault_tree, Disk.nextFault_current, found] at done
  cases target with
  | present place entry =>
      obtain ⟨identity, content, rfl⟩ := alike entry rfl
      cases done
      exact ⟨identity, rfl⟩
  | absent place slash =>
      cases done
      exact ⟨before.tree.nextIdentity, rfl⟩

/-- Where nothing was, or a file of the same mode, there is a file with the bytes and the
mode after a file has been filled, and nothing else has changed. -/
theorem fill_at {path : String} {executable : Bool} {bytes : ByteArray} {before after : Disk}
    (done : (openForWriting path true executable >>= fun handle => storeBytes handle bytes) before =
      (.ok (), after))
    {target : Target} (found : before.tree.find before.current .newFile path = .ok target)
    (alike : ∀ entry, target.entryAt? = some entry →
      ∃ identity content, entry = .file identity content executable) :
    after.current = before.current ∧ before.tree.Rewritten after.tree target.place bytes ∧
      ∃ identity, after.tree.lookup target.place = some (.file identity bytes executable) := by
  obtain ⟨current, ⟨-, device⟩ | ⟨_, _, again, rewritten, whole⟩⟩ := fill_done done
  · obtain ⟨place, kind, again⟩ := device rfl
    cases found.symm.trans again
    obtain ⟨_, _, ⟨⟩⟩ := alike _ rfl
  · cases found.symm.trans again
    obtain rfl := whole.2 rfl
    refine ⟨current, rewritten, ?_⟩
    obtain ⟨handle, between, opened, stored⟩ := Effect.bind_ok done
    obtain ⟨identity, rfl⟩ := openForWriting_mode opened found alike
    obtain ⟨-, kept, changed, same⟩ := storeBytes_done stored
    obtain rfl := same.2 rfl
    obtain ⟨name, around, atPlace, holder⟩ := openForWriting_inside opened
    rw [atPlace] at changed ⊢
    exact ⟨identity, changed ▸ Tree.lookup_put_self _ _ holder⟩

/-- Where no fault strikes, a new file can be opened at a free name. -/
theorem openForWriting_of_absent {path : String} {disk : Disk} {place : Place} {slash : Bool}
    (noFaults : disk.faults = [])
    (free : disk.tree.find disk.current .newFile path = .ok (.absent place slash))
    (executable : Bool) :
    openForWriting path true executable disk =
      (.ok (.file place disk.tree.nextIdentity executable),
        { disk with tree := disk.tree.create place ByteArray.empty executable }) := by
  refine attempt_of_ok noFaults ?_
  rw [free]

theorem openForWriting_of_present {path : String} {disk : Disk} {place : Place} {identity : Nat}
    {content : ByteArray} {mode : Bool} (noFaults : disk.faults = [])
    (found : disk.tree.find disk.current .newFile path =
      .ok (.present place (.file identity content mode)))
    (executable : Bool) :
    openForWriting path true executable disk = (.ok (.file place identity mode),
      { disk with tree := disk.tree.put place (.file identity ByteArray.empty mode) }) := by
  refine attempt_of_ok noFaults ?_
  rw [found]
  rfl

theorem storeBytes_of_noFaults {disk : Disk} (noFaults : disk.faults = []) (place : Place)
    (identity : Nat) (executable : Bool) (bytes : ByteArray) :
    storeBytes (.file place identity executable) bytes disk =
      (.ok (), { disk with tree := disk.tree.put place (.file identity bytes executable) }) := by
  simp only [storeBytes, Disk.nextFault, noFaults]

/-- Where no fault strikes, a text can be written to a free name. -/
theorem writeText_of_absent {path : String} {disk : Disk} {place : Place} {slash : Bool}
    (noFaults : disk.faults = [])
    (free : disk.tree.find disk.current .newFile path = .ok (.absent place slash))
    (text : String) : writeText path text disk = (.ok (), { disk with
      tree := (disk.tree.create place ByteArray.empty false).put place
        (.file disk.tree.nextIdentity text.toUTF8 false) }) := by
  rw [writeText, writeFile, Effect.bind_of_ok (openForWriting_of_absent noFaults free false)]
  apply storeBytes_of_noFaults
  exact noFaults

/-- Where no fault strikes, a text can be written to a file that is there. -/
theorem writeText_of_present {path : String} {disk : Disk} {place : Place} {identity : Nat}
    {content : ByteArray} {executable : Bool} (noFaults : disk.faults = [])
    (found : disk.tree.find disk.current .newFile path =
      .ok (.present place (.file identity content executable)))
    (text : String) : writeText path text disk = (.ok (), { disk with
      tree := (disk.tree.put place (.file identity ByteArray.empty executable)).put place
        (.file identity text.toUTF8 executable) }) := by
  rw [writeText, writeFile, Effect.bind_of_ok (openForWriting_of_present noFaults found false)]
  apply storeBytes_of_noFaults
  exact noFaults

/-- A path that was opened for writing leads to the file that it has filled. -/
theorem Disk.find_rewritten {path : String} {before after : Disk} {target : Target}
    {content : ByteArray} (current : after.current = before.current)
    (found : before.tree.find before.current .newFile path = .ok target)
    (rewritten : before.tree.Rewritten after.tree target.place content) :
    ∃ identity executable,
      after.find path = .ok (.present target.place (.file identity content executable)) := by
  obtain ⟨identity, executable, there⟩ := rewritten.there
  have writable := Tree.find_ends found ▸ rewritten.writable
  refine ⟨identity, executable, ?_⟩
  rw [Disk.find, current]
  refine Tree.find_changed found writable.ne_link writable.ne_directory ?_ there (by simp)
  intro other apart
  exact rewritten.same other fun same => apart (same ▸ List.suffix_refl _)

/-- The path of a text that has been written leads to a file with this text, and no other
entry has changed, or it leads to a device and no entry has changed. -/
theorem writeText_done {path text : String} {before after : Disk}
    (written : writeText path text before = (.ok (), after)) :
    after.current = before.current ∧
      ((∃ place identity executable,
        after.find path = .ok (.present place (.file identity text.toUTF8 executable)) ∧
          before.tree.Rewritten after.tree place text.toUTF8) ∨
      ∃ place kind, after.find path = .ok (.present place (.device kind)) ∧
        after.tree = before.tree) := by
  obtain ⟨here, ⟨same, leads⟩ | ⟨target, content, found, rewritten, -, whole⟩⟩ := fill_done written
  · obtain ⟨place, kind, found⟩ := leads rfl
    refine ⟨here, .inr ⟨place, kind, ?_, same⟩⟩
    rw [Disk.find, here, same]
    exact Tree.find_changed found (by simp [Target.entryAt?]) (by simp [Target.entryAt?])
      (fun _ _ => rfl) (Tree.find_ends found) (by simp)
  · obtain rfl := whole rfl
    obtain ⟨identity, executable, leads⟩ := Disk.find_rewritten here found rewritten
    exact ⟨here, .inl ⟨target.place, identity, executable, leads, rewritten⟩⟩

/-- When a text could not be written, nothing has changed, or the path leads to a file that has
lost its bytes to the first ones of the text, and no other entry has changed. -/
theorem writeText_failed {path text : String} {before after : Disk} {cause : Cause}
    (failed : writeText path text before = (.error cause, after)) :
    after.current = before.current ∧ (after.tree = before.tree ∨
      ∃ place identity count executable, after.find path =
          .ok (.present place (.file identity (text.toUTF8.extract 0 count) executable)) ∧
        before.tree.Rewritten after.tree place (text.toUTF8.extract 0 count)) := by
  obtain ⟨here, ⟨same, -⟩ | ⟨target, content, found, rewritten, ⟨count, cut⟩, -⟩⟩ :=
    fill_done failed
  · exact ⟨here, .inl same⟩
  · obtain rfl := cut
    obtain ⟨identity, executable, leads⟩ := Disk.find_rewritten here found rewritten
    exact ⟨here, .inr ⟨target.place, identity, count, executable, leads, rewritten⟩⟩

/-- A text that has been written is what the file at the path holds, unless the
path led to a device, and then it still does. -/
theorem entryAt?_writeText {path text : String} {before after : Disk}
    (written : writeText path text before = (.ok (), after)) :
    (∃ identity executable,
      after.entryAt? path = .ok (.file identity text.toUTF8 executable)) ∨
    ∃ kind, before.entryAt? path = .ok (.device kind) ∧
      after.entryAt? path = .ok (.device kind) := by
  obtain ⟨here, ⟨place, identity, executable, leads, -⟩ | ⟨place, kind, leads, same⟩⟩ :=
    writeText_done written
  · refine .inl ⟨identity, executable, ?_⟩
    rw [Disk.entryAt?, leads]
  · have led : before.find path = .ok (.present place (.device kind)) := by
      rw [Disk.find, here, same] at leads
      exact leads
    refine .inr ⟨kind, ?_, ?_⟩
    · rw [Disk.entryAt?, led]
    · rw [Disk.entryAt?, leads]

/-- A directory is made where its path leads to a free name, or nothing changes. -/
theorem makeDirectory_cases {path : String} {before after : Disk} {answer : Except Cause Unit}
    (done : makeDirectory path before = (answer, after)) :
    ((∃ cause, answer = .error cause) ∧ after = before.nextFault.2) ∨
      answer = .ok () ∧ ∃ place slash,
        before.tree.find before.current .name path = .ok (.absent place slash) ∧
        after.current = before.current ∧ after.tree = before.tree.put place .directory := by
  rcases attempt_cases done with ⟨cause, rfl, rfl⟩ | ⟨⟨⟩, rfl, took⟩
  · exact .inl ⟨⟨cause, rfl⟩, rfl⟩
  · rw [Disk.findName, Disk.nextFault_tree, Disk.nextFault_current] at took
    split at took
    next place slash found =>
      cases took
      exact .inr ⟨rfl, place, slash, found, rfl, rfl⟩
    next => cases took
    next => cases took

theorem acceptDirectory_done {path : String} {cause : Cause} {before after : Disk}
    {answer : Except Cause Unit} (done : acceptDirectory path cause before = (answer, after)) :
    after = before ∧ (answer = .ok () → before.isDirectory path = true) := by
  change (if before.isDirectory path then pure () else throw cause : Operation Unit) before = _
    at done
  split at done
  next isDirectory =>
    cases done
    exact ⟨rfl, fun _ => isDirectory⟩
  next =>
    cases done
    exact ⟨rfl, nofun⟩

/-- What every attempt to make a directory does to the disk, all the attempts that make
a path do.  What is done for the directory around it is done for the path. -/
theorem relates_makeDirectoriesUp {relation : String → Disk → Disk → Prop}
    (reflexive : ∀ path disk, relation path disk disk)
    (transitive : ∀ path {first second third}, relation path first second →
      relation path second third → relation path first third)
    (makes : ∀ path, Effect.Relates (relation path) (makeDirectory path))
    (up : ∀ {path around before after}, Path.parent? path = some around →
      relation around before after → relation path before after)
    (levels : Nat) (path : String) :
    Effect.Relates (relation path) (makeDirectoriesUp levels path) := by
  have accepts (cause : Cause) : Effect.Relates (relation path) (acceptDirectory path cause) := by
    intro before
    rw [(acceptDirectory_done (Prod.eta _).symm).1]
    exact reflexive path before
  induction levels generalizing path with
  | zero =>
      unfold makeDirectoriesUp
      split
      next => exact reflexive path
      next =>
        refine Effect.Relates.tryCatch (transitive path) (makes path) fun cause => ?_
        split
        next => exact reflexive path
        next => exact accepts cause
  | succ fewer ih =>
      unfold makeDirectoriesUp
      split
      next => exact reflexive path
      next =>
        refine Effect.Relates.tryCatch (transitive path) (makes path) fun cause => ?_
        split
        next =>
          split
          next _ _ level around same isParent =>
            obtain rfl : fewer = level := Nat.succ.inj same
            have upwards : Effect.Relates (relation path) (makeDirectoriesUp fewer around) := by
              intro before
              refine up isParent (ih around (fun cause => ?_) before)
              intro before
              rw [(acceptDirectory_done (Prod.eta _).symm).1]
              exact reflexive around before
            refine Effect.Relates.bind (transitive path) upwards fun _ => ?_
            exact Effect.Relates.tryCatch (transitive path) (makes path) accepts
          next => exact reflexive path
        next => exact accepts cause

/-- Directories have been made when the last of them was made, or was found to be there. -/
theorem makeDirectories_done {path : String} {before after : Disk} (some : path ≠ "")
    (made : makeDirectories path before = (.ok (), after)) :
    (∃ between, makeDirectory path between = (.ok (), after)) ∨ after.isDirectory path = true := by
  have accepted {cause : Cause} {between : Disk}
      (done : acceptDirectory path cause between = (.ok (), after)) :
      after.isDirectory path = true := by
    obtain ⟨rfl, isDirectory⟩ := acceptDirectory_done done
    exact isDirectory rfl
  rw [makeDirectories] at made
  generalize (Path.segments path).length = levels at made
  unfold makeDirectoriesUp at made
  rw [if_neg some] at made
  rcases Effect.tryCatch_done made with ⟨_, done, -⟩ | ⟨cause, between, -, made⟩
  · exact .inl ⟨before, done⟩
  · split at made
    next =>
      cases levels with
      | zero => cases made
      | succ fewer =>
          cases isParent : Path.parent? path with
          | none => rw [isParent] at made; cases made
          | some around =>
              rw [isParent] at made
              obtain ⟨_, holder, -, made⟩ := Effect.bind_ok made
              rcases Effect.tryCatch_done made with ⟨_, done, -⟩ | ⟨_, _, -, made⟩
              · exact .inl ⟨holder, done⟩
              · exact .inr (accepted made)
    next => exact .inr (accepted made)

theorem makeDirectoriesUp_of_absent {path : String} {disk : Disk} {place : Place} {slash : Bool}
    (levels : Nat) (noFaults : disk.faults = []) (some : path ≠ "")
    (free : disk.findName path = .ok (.absent place slash)) :
    makeDirectoriesUp levels path disk =
      (.ok (), { disk with tree := disk.tree.put place .directory }) := by
  have made : makeDirectory path disk =
      (.ok (), { disk with tree := disk.tree.put place .directory }) :=
    attempt_of_ok noFaults (by rw [free])
  unfold makeDirectoriesUp
  rw [if_neg some]
  exact Effect.tryCatch_of_ok made

/-- Where no fault strikes, a directory that is found to be there once the one around it has
been made need not be made. -/
theorem makeDirectoriesUp_of_missing {path around : String} {disk next : Disk} {place : Place}
    {fewer : Nat} (noFaults : disk.faults = []) (noFaultsLeft : next.faults = [])
    (some : path ≠ "") (missing : disk.findName path = .error .notFound)
    (isParent : Path.parent? path = Option.some around)
    (up : makeDirectoriesUp fewer around disk = (.ok (), next))
    (named : next.findName path = .ok (.present place .directory))
    (found : next.find path = .ok (.present place .directory)) :
    makeDirectoriesUp (fewer + 1) path disk = (.ok (), next) := by
  have refused : makeDirectory path disk = (.error .notFound, disk) :=
    attempt_of_error noFaults (by rw [missing])
  have present : makeDirectory path next = (.error .alreadyExists, next) :=
    attempt_of_error noFaultsLeft (by rw [named])
  have isDirectory : next.isDirectory path = true := by
    rw [Disk.isDirectory, Disk.entryAt?, found]
  unfold makeDirectoriesUp
  rw [if_neg some, Effect.tryCatch_of_error refused, if_pos rfl, isParent]
  dsimp only
  rw [Effect.bind_of_ok up, Effect.tryCatch_of_error present]
  change (if next.isDirectory path then pure () else throw _ : Operation Unit) next = _
  rw [if_pos isDirectory]
  rfl

/-- Where no fault strikes, a directory that is there already need not be made. -/
theorem makeDirectories_of_present {path : String} {disk : Disk} {place : Place}
    (noFaults : disk.faults = []) (some : path ≠ "")
    (named : disk.tree.find disk.current .name path = .ok (.present place .directory))
    (found : disk.find path = .ok (.present place .directory)) :
    makeDirectories path disk = (.ok (), disk) := by
  have present : makeDirectory path disk = (.error .alreadyExists, disk) :=
    attempt_of_error noFaults (by rw [Disk.findName, named])
  have isDirectory : disk.isDirectory path = true := by
    rw [Disk.isDirectory, Disk.entryAt?, found]
  rw [makeDirectories]
  unfold makeDirectoriesUp
  rw [if_neg some, Effect.tryCatch_of_error present, if_neg (by decide)]
  change (if disk.isDirectory path then pure () else throw _ : Operation Unit) disk = _
  rw [if_pos isDirectory]
  rfl

/-- A fault is reported unless it is taken for a missing parent or the directory is there. -/
theorem makeDirectories_of_fault {path : String} {disk rest : Disk} {fault : Fault}
    (strikes : disk.nextFault = (Option.some fault, rest)) (some : path ≠ "")
    (notMissing : fault.cause ≠ .notFound) (nowhere : rest.isDirectory path = false) :
    makeDirectories path disk = (.error fault.cause, rest) := by
  have refused : makeDirectory path disk = (.error fault.cause, rest) := by
    simp only [makeDirectory, attempt, strikes]
  rw [makeDirectories]
  unfold makeDirectoriesUp
  rw [if_neg some, Effect.tryCatch_of_error refused, if_neg notMissing]
  change (if rest.isDirectory path then pure () else throw _ : Operation Unit) rest = _
  rw [nowhere]
  rfl

/-- Every entry of the first disk is one of the second as well. -/
def Disk.Grows (before after : Disk) : Prop :=
  after.current = before.current ∧
    ∀ place entry, before.tree.lookup place = some entry → after.tree.lookup place = some entry

namespace Disk.Grows

theorem refl (disk : Disk) : disk.Grows disk :=
  ⟨rfl, fun _ _ found => found⟩

theorem trans {first second third : Disk} (one : first.Grows second) (two : second.Grows third) :
    first.Grows third :=
  ⟨two.1.trans one.1, fun place entry found => two.2 place entry (one.2 place entry found)⟩

theorem nextFault (disk : Disk) : disk.Grows disk.nextFault.2 :=
  ⟨disk.nextFault_current, fun _ _ found => by rwa [disk.nextFault_tree]⟩

theorem entryAt? {before after : Disk} (grows : before.Grows after) {path : String}
    {entry : Entry} (found : before.entryAt? path = .ok entry) :
    after.entryAt? path = .ok entry := by
  rw [Disk.entryAt?, Disk.find] at found ⊢
  rw [grows.1]
  split at found
  next place _ ended =>
    cases found
    rw [Tree.find_grown grows.2 ended]
  next => cases found
  next => cases found

theorem put {disk : Disk} {place : Place} (free : disk.tree.lookup place = none) :
    disk.Grows { disk with tree := disk.tree.put place .directory } := by
  refine ⟨rfl, ?_⟩
  intro other entry found
  refine (Tree.lookup_put _ _ ?_).trans found
  intro inside
  by_cases same : place = other
  · rw [same, found] at free
    cases free
  · rw [Tree.lookup_of_suffix found inside same] at free
    cases free

theorem makeDirectory (path : String) :
    Effect.Relates Disk.Grows (FileSystem.makeDirectory path) := by
  intro before
  rcases done : FileSystem.makeDirectory path before with ⟨answer, after⟩
  rcases makeDirectory_cases done with ⟨-, rfl⟩ | ⟨_, place, slash, found, current, tree⟩
  · exact nextFault before
  · have grows := @put before place (Tree.find_ends found)
    exact ⟨current, fun other entry shown => tree ▸ grows.2 other entry shown⟩

theorem makeDirectoriesUp (levels : Nat) (path : String) :
    Effect.Relates Disk.Grows (FileSystem.makeDirectoriesUp levels path) :=
  @relates_makeDirectoriesUp (fun _ => Disk.Grows) (fun _ => refl) (fun _ _ _ _ => trans)
    makeDirectory (fun _ related => related) levels path

end Disk.Grows

theorem readFile_file {disk : Disk} {path : String} {identity : Nat} {content : ByteArray}
    {executable : Bool} (found : disk.entryAt? path = .ok (.file identity content executable))
    (noFault : disk.nextFault.1 = none) :
    readFile path disk = (.ok content, disk.nextFault.2) := by
  have leads := (Disk.Grows.nextFault disk).entryAt? found
  rcases next : disk.nextFault with ⟨fault, rest⟩
  rw [next] at noFault leads
  obtain rfl : fault = none := noFault
  simp only [readFile, attempt, next, leads]

/-- A file is read as the text that its bytes are made of, unless the reading is
refused. -/
theorem readText_file {disk : Disk} {path text : String} {identity : Nat} {executable : Bool}
    (found : disk.entryAt? path = .ok (.file identity text.toUTF8 executable))
    (noFault : disk.nextFault.1 = none) : (readText path disk).1 = .ok text := by
  rw [readText, Effect.bind_of_ok (readFile_file found noFault), fromUTF8?_toUTF8]
  rfl

theorem reportedFor_of_ok {Result : Type} {operation : Operation Result} {path : String}
    {before after : Disk} {result : Result} (done : operation before = (.ok result, after)) :
    operation.reportedFor path before = (.ok result, after) := by
  rw [Operation.reportedFor, done]

/-- The path that a failure is reported for makes no difference to the disk. -/
theorem relates_reportedFor {Result : Type} {relation : Disk → Disk → Prop}
    {operation : Operation Result} (works : Effect.Relates relation operation) (path : String) :
    Effect.Relates relation (operation.reportedFor path) := by
  intro before
  have related := works before
  rcases done : operation before with ⟨_ | _, after⟩ <;>
  · rw [done] at related
    rwa [Operation.reportedFor, done]

/-- An operation as a task answers the same, apart from the path that a failure names. -/
theorem reportedFor_done {Result : Type} {operation : Operation Result} {path : String}
    {before after : Disk} {answer : Except Failure Result}
    (done : operation.reportedFor path before = (answer, after)) :
    ∃ told, operation before = (told, after) ∧ answer = told.mapError (.fileSystem path) := by
  rw [Operation.reportedFor] at done
  split at done
  all_goals
    next found =>
      cases done
      exact ⟨_, found, rfl⟩

theorem reportedFor_ok {Result : Type} {operation : Operation Result} {path : String}
    {before after : Disk} {result : Result}
    (done : operation.reportedFor path before = (.ok result, after)) :
    operation before = (.ok result, after) := by
  rw [Operation.reportedFor] at done
  split at done
  next found =>
    cases done
    exact found
  next => cases done

end SnippetSandbox.FileSystem
