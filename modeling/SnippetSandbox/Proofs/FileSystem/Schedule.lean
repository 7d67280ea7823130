import SnippetSandbox.Proofs.FileSystem.Disk

/-!
# The schedule of faults

Each operation uses up the next decision of the schedule, and no decision comes back.  An
operation that only looks at the disk does nothing else to it.
-/

namespace SnippetSandbox.FileSystem

/-- Nothing has happened but that decisions of the schedule have been used up. -/
def Disk.Spends (before after : Disk) : Prop :=
  ∃ left, left <:+ before.faults ∧ after = { before with faults := left }

namespace Disk.Spends

variable {before after : Disk}

theorem refl (disk : Disk) : disk.Spends disk :=
  ⟨disk.faults, List.suffix_refl _, rfl⟩

theorem trans {first second third : Disk} (one : first.Spends second) (two : second.Spends third) :
    first.Spends third := by
  obtain ⟨left, isSuffix, rfl⟩ := one
  obtain ⟨last, further, rfl⟩ := two
  exact ⟨last, further.trans isSuffix, rfl⟩

theorem nextFault (disk : Disk) : disk.Spends disk.nextFault.2 := by
  rw [Disk.nextFault]
  split
  next => exact refl disk
  next fault later decisions =>
    exact ⟨later, decisions ▸ List.suffix_cons fault later, rfl⟩

/-- Where nothing is in the schedule, nothing has happened at all. -/
theorem eq_of_calm (spends : before.Spends after) (calm : before.faults = []) :
    after = before := by
  obtain ⟨left, isSuffix, rfl⟩ := spends
  rw [calm, List.suffix_nil] at isSuffix
  rw [isSuffix, ← calm]

end Disk.Spends

theorem readText_spent (path : String) (disk : Disk) :
    (readText path disk).2 = disk.nextFault.2 := by
  have reads : (readFile path disk).2 = disk.nextFault.2 := by
    refine attempt_reads (fun _ _ _ took => ?_) disk
    split at took <;> cases took <;> rfl
  rcases read : readFile path disk with ⟨cause | bytes, rest⟩
  · rw [readText, Effect.bind_of_error read]
    rwa [read] at reads
  · rw [readText, Effect.bind_of_ok read]
    rw [read] at reads
    cases String.fromUTF8? bytes <;> exact reads

theorem Disk.Spends.readText (path : String) :
    Effect.Relates Disk.Spends (FileSystem.readText path) := by
  intro disk
  rw [readText_spent]
  exact nextFault disk

theorem attempt_faults {Result : Type} {action : Disk → Except Cause (Result × Disk)}
    (keeps : ∀ disk result changed, action disk = .ok (result, changed) →
      changed.faults = disk.faults) (before : Disk) :
    (attempt action before).2.faults <:+ before.faults := by
  have left : before.nextFault.2.faults <:+ before.faults := by
    obtain ⟨left, isSuffix, same⟩ := Disk.Spends.nextFault before
    rw [same]
    exact isSuffix
  rcases done : attempt action before with ⟨answer, after⟩
  rcases attempt_cases done with ⟨_, -, rfl⟩ | ⟨_, -, took⟩
  · exact left
  · exact (keeps _ _ _ took).symm ▸ left

theorem openForWriting_faults (path : String) (truncate executable : Bool) (before : Disk) :
    (openForWriting path truncate executable before).2.faults <:+ before.faults := by
  refine attempt_faults (fun disk result changed took => ?_) before
  split at took <;> cases took <;> rfl

theorem Disk.mem_faults_of_nextFault {disk : Disk} {fault : Fault}
    (strikes : disk.nextFault.1 = some fault) : some fault ∈ disk.faults := by
  rw [Disk.nextFault] at strikes
  split at strikes
  next => cases strikes
  next first later decisions =>
    rw [decisions, ← strikes]
    exact List.mem_cons_self

end SnippetSandbox.FileSystem
