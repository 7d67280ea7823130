import Mathlib
import SnippetSandbox.Proofs.Run.Course
import SnippetSandbox.Source.EntryPoint

/-!
# What the sources of a run leave on the disk

Source texts are written one after another, and a later one may go to the file of an earlier
one: when both have the same name, or when links lead their paths to the same place.  Each
file holds the last text that was written to it, whether or not that text has an entry point,
while the program to execute is named by the last text with an entry point.
-/

namespace SnippetSandbox

open FileSystem

/-- A try at writing a source text, with the disk before and after it. -/
structure Attempt where
  text : String
  before : Disk
  answer : Except Failure Snippet
  after : Disk

namespace Attempt

/-- What was written successfully. -/
def written (attempts : List Attempt) : List Snippet :=
  attempts.filterMap fun attempt => attempt.answer.toOption

/-- The disk after the last try. -/
def left (disk : Disk) (attempts : List Attempt) : Disk :=
  attempts.foldl (fun _ attempt => attempt.after) disk

end Attempt

/-- The tries at writing these texts, up to the first that fails. -/
def Snippet.attempts (sourceDir : String) (detector : Detector) : List String → Disk → List Attempt
  | [], _ => []
  | text :: others, disk =>
      let done := write sourceDir detector text disk
      ⟨text, disk, done.1, done.2⟩ ::
        match done.1 with
        | .ok _ => attempts sourceDir detector others done.2
        | .error _ => []

namespace Snippet

variable {sourceDir text : String} {detector : Detector}
variable {disk after : Disk} {snippet : Snippet}

theorem attempts_of_ok (others : List String)
    (done : write sourceDir detector text disk = (.ok snippet, after)) :
    attempts sourceDir detector (text :: others) disk =
      ⟨text, disk, .ok snippet, after⟩ :: attempts sourceDir detector others after := by
  rw [attempts, done]

theorem attempts_of_error (others : List String) {failure : Failure}
    (failed : write sourceDir detector text disk = (.error failure, after)) :
    attempts sourceDir detector (text :: others) disk = [⟨text, disk, .error failure, after⟩] := by
  rw [attempts, failed]

end Snippet

namespace Run

variable {Memory : Type}

/-- The tries of a sandbox at writing these texts. -/
def Sandbox.attempts (sandbox : Sandbox Memory) (sources : List String) (disk : Disk) :
    List Attempt :=
  Snippet.attempts sandbox.workspace.sourceDir sandbox.collaborators.detect sources disk

/-- Writing sources is trying them one after another, and recording those that succeed. -/
theorem writeSources_done {sandbox : Sandbox Memory} {sources : List String}
    {before after : State Memory} {answer : Except Failure Unit}
    (done : sandbox.writeSources sources before = (answer, after)) :
    let attempts := sandbox.attempts sources before.surroundings.disk
    after.surroundings =
        { before.surroundings with disk := Attempt.left before.surroundings.disk attempts } ∧
      after.session = (Attempt.written attempts).foldl Session.record before.session ∧
      (answer = .ok () → (Attempt.written attempts).map Snippet.text = sources) := by
  induction sources generalizing before with
  | nil =>
      cases done
      exact ⟨rfl, rfl, fun _ => rfl⟩
  | cons text others ih =>
      rw [Sandbox.writeSources] at done
      rcases Effect.bind_done done with ⟨failure, failed, rfl⟩ | ⟨snippet, between, written, done⟩
      · obtain ⟨answered, rfl⟩ := Prod.mk.inj failed
        have tries := Snippet.attempts_of_error others (Prod.ext answered rfl)
        simp only [Sandbox.attempts, tries]
        exact ⟨rfl, rfl, by rintro ⟨⟩⟩
      · obtain ⟨answered, rfl⟩ := Prod.mk.inj written
        have tries := Snippet.attempts_of_ok others (Prod.ext answered rfl)
        have sameText : snippet.text = text :=
          (Snippet.ofText_done (Snippet.write_done (Prod.ext answered rfl)).1).1
        simp only [Sandbox.attempts, tries]
        dsimp only at done
        -- The branches differ only in what they report.
        split at done <;>
        · simp only [bind_report, bind_modify] at done
          obtain ⟨surroundings, session, all⟩ := ih done
          exact ⟨surroundings, session, fun succeeded =>
            List.cons_eq_cons.mpr ⟨sameText, all succeeded⟩⟩

end Run

namespace FileSystem.Disk

/-- The place of the entry that a path leads to. -/
def placeAt? (disk : Disk) (path : String) : Option Place :=
  match disk.find path with
  | .ok (.present place _) => some place
  | _ => none

/-- The last of these snippets whose path leads to a place. -/
def lastAt? (disk : Disk) (snippets : List Snippet) (place : Place) : Option Snippet :=
  (snippets.filter fun snippet => disk.placeAt? snippet.path = some place).getLast?

/-- The path leads to a file with the text of the last of these snippets that was written
to the same place, or to a device, which holds nothing. -/
inductive Holds (disk : Disk) (snippets : List Snippet) (path : String) : Prop
  | file {place : Place} {identity : Nat} {executable : Bool} {last : Snippet}
      (leads : disk.find path =
        .ok (.present place (.file identity last.text.toUTF8 executable)))
      (isLast : disk.lastAt? snippets place = some last) : Holds disk snippets path
  | device {place : Place} {kind : Device}
      (leads : disk.find path = .ok (.present place (.device kind))) : Holds disk snippets path

variable {disk before after : Disk} {snippets : List Snippet} {snippet : Snippet}
variable {place : Place} {path : String} {entry : Entry}

theorem placeAt?_of_find (found : disk.find path = .ok (.present place entry)) :
    disk.placeAt? path = some place := by
  rw [placeAt?, found]

theorem entry_unique {otherPath : String} {other : Entry}
    (one : disk.find path = .ok (.present place entry))
    (two : disk.find otherPath = .ok (.present place other)) : entry = other := by
  have here : disk.tree.lookup place = some entry := Tree.find_ends one
  have there : disk.tree.lookup place = some other := Tree.find_ends two
  exact Option.some.inj (here.symm.trans there)

theorem lastAt?_concat : disk.lastAt? (snippets ++ [snippet]) place =
    if disk.placeAt? snippet.path = some place then some snippet
    else disk.lastAt? snippets place := by
  rw [lastAt?, lastAt?, List.filter_append]
  split
  next here => simp [here]
  next elsewhere => simp [elsewhere]

theorem lastAt?_congr
    (same : ∀ other ∈ snippets, after.placeAt? other.path = before.placeAt? other.path) :
    after.lastAt? snippets place = before.lastAt? snippets place := by
  rw [lastAt?, lastAt?]
  congr 1
  apply List.filter_congr
  intro other isMember
  rw [same other isMember]

theorem Holds.find (holds : disk.Holds snippets path) :
    ∃ place entry, disk.find path = .ok (.present place entry) := by
  cases holds with
  | file leads => exact ⟨_, _, leads⟩
  | device leads => exact ⟨_, _, leads⟩

/-- After a further snippet was written, every file still holds the last text that was
written to it. -/
theorem holds_write {sourceDir text : String} {detector : Detector}
    (holds : ∀ other ∈ snippets, before.Holds snippets other.path)
    (written : Snippet.write sourceDir detector text before = (.ok snippet, after)) :
    ∀ other ∈ snippets ++ [snippet], after.Holds (snippets ++ [snippet]) other.path := by
  have builds : before.Builds after := (Snippet.builds_write _ _ _).states written
  have samePlace (other : Snippet) (isMember : other ∈ snippets) :
      after.placeAt? other.path = before.placeAt? other.path := by
    obtain ⟨place, entry, found⟩ := (holds other isMember).find
    obtain ⟨later, leads, -⟩ := builds.find found
    rw [placeAt?_of_find found, placeAt?_of_find leads]
  obtain ⟨-, between, made, stored⟩ := Snippet.write_done written
  have adds := (AddsDirectories.makeDirectories _).states made
  have stays {path : String} {place : Place} {entry : Entry}
      (found : before.find path = .ok (.present place entry))
      (same : after.tree.lookup place = between.tree.lookup place) :
      after.find path = .ok (.present place entry) := by
    obtain ⟨later, leads, -⟩ := builds.find found
    have there := same.trans (adds.keeps (Tree.find_ends found))
    cases there.symm.trans (Tree.find_ends leads)
    exact leads
  have lastElsewhere {here place : Place} (leads : after.placeAt? snippet.path = some here)
      (elsewhere : here ≠ place) :
      after.lastAt? (snippets ++ [snippet]) place = before.lastAt? snippets place := by
    rw [lastAt?_concat, if_neg (by simp [leads, elsewhere]), lastAt?_congr samePlace]
  have device {path : String} {place : Place} {kind : Device}
      (found : before.find path = .ok (.present place (.device kind))) :
      after.Holds (snippets ++ [snippet]) path := by
    obtain ⟨later, leads, becomes⟩ := builds.find found
    cases becomes with
    | same => exact .device leads
    | written writable => exact absurd rfl (writable.ne_device kind)
  obtain ⟨-, ⟨here, identity, executable, leads, rewritten⟩ | ⟨here, kind, leads, same⟩⟩ :=
    writeText_done stored
  · -- The file at `here` has the new text, and no other file has changed.
    have isNewest : after.lastAt? (snippets ++ [snippet]) here = some snippet := by
      rw [lastAt?_concat, if_pos (placeAt?_of_find leads)]
    intro other isMember
    rcases List.mem_append.mp isMember with isOld | isNew
    · cases holds other isOld with
      | @file place _ _ _ led isLast =>
          by_cases again : place = here
          · obtain ⟨later, leadsAgain, -⟩ := builds.find led
            rw [again] at leadsAgain
            cases entry_unique leads leadsAgain
            exact .file leadsAgain isNewest
          · refine .file (stays led (rewritten.same place again)) ?_
            rw [lastElsewhere (placeAt?_of_find leads) (Ne.symm again), isLast]
      | device led => exact device led
    · rw [List.mem_singleton.mp isNew]
      exact .file leads isNewest
  · intro other isMember
    rcases List.mem_append.mp isMember with isOld | isNew
    · cases holds other isOld with
      | @file place _ _ _ led isLast =>
          have leadsStill := stays led (by rw [same])
          have elsewhere : here ≠ place := by
            rintro rfl
            cases entry_unique leads leadsStill
          refine .file leadsStill ?_
          rw [lastElsewhere (placeAt?_of_find leads) elsewhere, isLast]
      | device led => exact device led
    · rw [List.mem_singleton.mp isNew]
      exact .device leads

end FileSystem.Disk

namespace Run

/-- A session remembers every snippet, and the name of the last one with an entry point. -/
theorem foldl_record (written : List Snippet) (session : Session) :
    (written.foldl Session.record session).snippets = session.snippets ++ written ∧
      (written.foldl Session.record session).entry =
        ((written.filter Snippet.isEntry).getLast?.map Snippet.name).or session.entry := by
  induction written generalizing session with
  | nil => simp
  | cons snippet others ih =>
      obtain ⟨snippets, entry⟩ := ih (session.record snippet)
      rw [List.foldl_cons, snippets, entry]
      refine ⟨by simp [Session.record], ?_⟩
      cases isEntry : snippet.isEntry with
      | false => simp [Session.record, isEntry]
      | true =>
          rw [List.filter_cons_of_pos isEntry, List.getLast?_cons]
          cases (others.filter Snippet.isEntry).getLast? <;> simp [Session.record, isEntry]

theorem ofText_of_mem_written {sourceDir : String} {detector : Detector} {texts : List String}
    {disk : Disk} {snippet : Snippet}
    (isMember : snippet ∈ Attempt.written (Snippet.attempts sourceDir detector texts disk)) :
    Snippet.ofText sourceDir detector snippet.text = .ok snippet := by
  induction texts generalizing disk with
  | nil => simp [Snippet.attempts, Attempt.written] at isMember
  | cons text texts ih =>
      rcases done : Snippet.write sourceDir detector text disk with ⟨failure | first, after⟩
      · simp [Snippet.attempts_of_error _ done, Attempt.written, Except.toOption] at isMember
      · rw [Snippet.attempts_of_ok _ done, Attempt.written, List.filterMap_cons] at isMember
        rcases List.mem_cons.mp isMember with rfl | isLater
        · have named := (Snippet.write_done done).1
          rwa [← (Snippet.ofText_done named).1] at named
        · exact ih isLater

theorem named_of_mem_written {sourceDir : String} {detector : Detector} {texts : List String}
    {disk : Disk} {snippet : Snippet}
    (isMember : snippet ∈ Attempt.written (Snippet.attempts sourceDir detector texts disk)) :
    snippet.isEntry = detector snippet.text ∧ snippet.IsNamed sourceDir :=
  (Snippet.ofText_done (ofText_of_mem_written isMember)).2

/-- A sandbox whose collaborators do nothing. -/
def idle : Sandbox Unit where
  workspace := ⟨"/", "/s", "/c", "/log", "/lock"⟩
  collaborators :=
    { compile _ _ := pure ⟨true, ""⟩
      execute _ _ _ := pure ⟨true, ""⟩
      save _ := pure ()
      forget := id
      ingest _ := pure ()
      lookup _ _ := none
      detect := Source.hasMainSignature }

end Run

end SnippetSandbox
