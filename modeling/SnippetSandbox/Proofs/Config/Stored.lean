import SnippetSandbox.Proofs.Config.Torn
import SnippetSandbox.Proofs.FileSystem.Missing

/-!
# What is stored after a save

A saved configuration is what is stored.  A save that fails has made directories at most, or
it has opened the file, which then holds only the first bytes of the new configuration: the
old one is gone, and what is left is none, unless all the bytes had come before the failure.
-/

namespace SnippetSandbox

open FileSystem

namespace FileSystem

variable {path around : String} {before after : Disk}

theorem readFile_answer (path : String) (disk : Disk) :
    (readFile path disk).1 =
      match disk.nextFault.1, disk.entryAt? path with
      | some fault, _ => .error fault.cause
      | none, .ok (.file _ content _) => .ok content
      | none, .ok (.device _) => .ok .empty
      | none, .ok _ => .error .isDirectory
      | none, .error cause => .error cause := by
  have same : disk.nextFault.2.entryAt? path = disk.entryAt? path := by
    rw [Disk.entryAt?, Disk.entryAt?, Disk.find, Disk.find, disk.nextFault_tree,
      disk.nextFault_current]
  rw [readFile, attempt]
  rcases next : disk.nextFault with ⟨_ | fault, rest⟩
  · rw [next] at same
    dsimp only at same ⊢
    rw [same]
    cases disk.entryAt? path with
    | error cause => rfl
    | ok entry => cases entry <;> rfl
  · rfl

theorem readText_answer (path : String) (disk : Disk) :
    (readText path disk).1 = (readFile path disk).1.bind fun bytes =>
      match String.fromUTF8? bytes with
      | some text => .ok text
      | none => .error .notText := by
  rw [readText]
  rcases read : readFile path disk with ⟨cause | bytes, rest⟩
  · rw [Effect.bind_of_error read]
    rfl
  · rw [Effect.bind_of_ok read]
    cases made : String.fromUTF8? bytes <;> simp only [Except.bind, made] <;> rfl

/-- Directories around a path have been made, as far as they were missing. -/
structure Disk.AddsAround (path : String) (before after : Disk) : Prop where
  adds : before.AddsDirectories path after
  missing : (∀ name ∈ Path.names path, IsPlainName name) →
    before.entryAt? path = .error .notFound → after.entryAt? path = .error .notFound

namespace Disk.AddsAround

theorem refl (path : String) (disk : Disk) : disk.AddsAround path disk :=
  ⟨.refl path disk, fun _ => id⟩

theorem makeDirectories {answer : Except Cause Unit} (isParent : Path.parent? path = some around)
    (made : FileSystem.makeDirectories around before = (answer, after)) :
    before.AddsAround path after where
  adds := .up isParent ((AddsDirectories.makeDirectories around).states made)
  missing plain := missing_makeDirectories isParent plain made

/-- The path leads where it led before, unless it led to nothing and not straight down. -/
theorem entryAt?_eq (adds : before.AddsAround path after)
    (settled : before.entryAt? path ≠ .error .notFound ∨
      ∀ name ∈ Path.names path, IsPlainName name) :
    after.entryAt? path = before.entryAt? path := by
  have grows : before.Grows after := ⟨adds.adds.current, fun _ _ => adds.adds.keeps⟩
  cases led : before.entryAt? path with
  | ok entry => exact grows.entryAt? led
  | error cause =>
      by_cases missing : cause = .notFound
      · subst missing
        exact adds.missing (settled.resolve_left fun there => there led) led
      · exact grows.entryAt?_refused led missing

end Disk.AddsAround

end FileSystem

namespace Config

variable {path : String} {config : Config} {disk before after : Disk} {failure : Failure}

/-- What is stored at a path: what is loaded where no fault strikes. -/
def stored (path : String) (disk : Disk) : Except Failure Config :=
  (load path { disk with faults := [] }).1

theorem load_answer (path : String) (disk : Disk) :
    (load path disk).1 = ofFile path (readText path disk).1 := rfl

theorem stored_eq_load (calm : disk.faults = []) : stored path disk = (load path disk).1 := by
  rw [stored, ← calm]

theorem stored_of_bytes {identity : Nat} {bytes : ByteArray} {executable : Bool}
    (found : disk.entryAt? path = .ok (.file identity bytes executable)) :
    stored path disk = ofFile path (match String.fromUTF8? bytes with
      | some text => .ok text
      | none => .error .notText) := by
  have foundCalm : ({ disk with faults := [] } : Disk).entryAt? path =
      .ok (.file identity bytes executable) := found
  rw [stored, load, ← Prod.eta (readText path _), readText,
    Effect.bind_of_ok (readFile_file foundCalm rfl)]
  cases String.fromUTF8? bytes <;> rfl

theorem stored_of_render {identity : Nat} {executable : Bool}
    (found : disk.entryAt? path = .ok (.file identity config.render.toUTF8 executable)) :
    stored path disk = .ok config := by
  rw [stored_of_bytes found, fromUTF8?_toUTF8]
  simp only [ofFile, parse_render]

theorem stored_of_front {identity count : Nat} {executable : Bool}
    (torn : count < config.render.toUTF8.size)
    (found : disk.entryAt? path =
      .ok (.file identity (config.render.toUTF8.extract 0 count) executable)) :
    ∃ failure, stored path disk = .error failure := by
  rw [stored_of_bytes found]
  cases made : String.fromUTF8? (config.render.toUTF8.extract 0 count) with
  | none => exact ⟨_, ofFile_error (by simp)⟩
  | some text =>
      obtain ⟨isPrefix, held⟩ := isPrefix_of_fromUTF8? (Nat.le_of_lt torn) made
      have cut : text ≠ config.render := by
        rintro rfl
        have size := congrArg ByteArray.size held
        rw [ByteArray.size_extract] at size
        omega
      obtain ⟨problem, position, halted⟩ := parse_front isPrefix cut
      refine ⟨.config (.malformed problem position), ?_⟩
      simp only [ofFile, halted]

theorem current_of_save (saved : config.save path before = (.ok (), after)) :
    after.current = before.current := by
  obtain ⟨between, grows, written⟩ := save_ok saved
  exact (writeText_done written).1.trans grows.1

/-- What has been saved is stored unless the path leads to a device. -/
theorem stored_save (saved : config.save path before = (.ok (), after))
    (noDevice : ∀ kind, after.entryAt? path ≠ .ok (.device kind)) :
    stored path after = .ok config := by
  obtain ⟨between, -, written⟩ := save_ok saved
  rcases entryAt?_writeText written with ⟨identity, executable, found⟩ | ⟨kind, -, leads⟩
  · exact stored_of_render found
  · exact absurd leads (noDevice kind)

/-- What is loaded depends on the entry that the path leads to, and on the coming faults. -/
theorem load_congr {first second : Disk} (same : second.entryAt? path = first.entryAt? path)
    (faults : List (Option Fault)) :
    (load path { second with faults }).1 = (load path { first with faults }).1 := by
  have sameEntry : ({ second with faults } : Disk).entryAt? path =
      ({ first with faults } : Disk).entryAt? path := same
  have sameFault : ({ second with faults } : Disk).nextFault.1 =
      ({ first with faults } : Disk).nextFault.1 := by
    cases faults <;> rfl
  rw [load_answer, load_answer, readText_answer, readText_answer, readFile_answer,
    readFile_answer, sameEntry, sameFault]

/-- A failed save has made directories around the file, and then it may have opened it. -/
theorem save_fails (failed : config.save path before = (.error failure, after)) :
    ∃ made, before.AddsAround path made ∧ after.current = made.current ∧
      (after.tree = made.tree ∨ ∃ place identity count executable, after.find path =
          .ok (.present place (.file identity (config.render.toUTF8.extract 0 count) executable)) ∧
        made.tree.Rewritten after.tree place (config.render.toUTF8.extract 0 count)) := by
  have writes {made : Disk} (failed : (writeText path config.render).reportedFor path made =
      (.error failure, after)) : after.current = made.current ∧ (after.tree = made.tree ∨
        ∃ place identity count executable, after.find path = .ok (.present place
            (.file identity (config.render.toUTF8.extract 0 count) executable)) ∧
          made.tree.Rewritten after.tree place (config.render.toUTF8.extract 0 count)) := by
    obtain ⟨told, refused, same⟩ := reportedFor_done failed
    cases told with
    | ok => cases same
    | error cause => exact writeText_failed refused
  rw [save] at failed
  cases isParent : Path.parent? path with
  | none =>
      rw [isParent] at failed
      exact ⟨before, .refl path before, writes failed⟩
  | some around =>
      rw [isParent] at failed
      rcases Effect.bind_done failed with ⟨other, refused, -⟩ | ⟨⟨⟩, made, makes, failed⟩
      · obtain ⟨told, makes, -⟩ := reportedFor_done refused
        exact ⟨after, .makeDirectories isParent makes, rfl, .inl rfl⟩
      · exact ⟨made, .makeDirectories isParent (reportedFor_ok makes), writes failed⟩

/-- Nothing but directories has been made, and what is loaded has not changed, unless the path
led to nothing and can lead elsewhere through the new directories. -/
structure KeepsStored (path : String) (before after : Disk) : Prop where
  adds : before.AddsDirectories path after
  loads : (before.entryAt? path ≠ .error .notFound ∨
      ∀ name ∈ Path.names path, IsPlainName name) →
    ∀ faults, (load path { after with faults }).1 = (load path { before with faults }).1

/-- Directories have been made, and the file at the path has lost its bytes to the first ones
of a configuration; what is stored is nothing, or all of that configuration. -/
inductive IsCutOff (path : String) (config : Config) (before after : Disk) : Prop
  | intro {made : Disk} {place : Place} {count identity : Nat} {executable : Bool}
      (adds : before.AddsDirectories path made)
      (rewritten : made.tree.Rewritten after.tree place (config.render.toUTF8.extract 0 count))
      (leads : after.find path =
        .ok (.present place (.file identity (config.render.toUTF8.extract 0 count) executable)))
      (stores : if count < config.render.toUTF8.size then
          ∃ failure, stored path after = .error failure
        else stored path after = .ok config) :
      IsCutOff path config before after

/-- A failed save either leaves the stored configuration, or leaves a file that has been cut
off. -/
theorem save_failed (failed : config.save path before = (.error failure, after)) :
    KeepsStored path before after ∨ IsCutOff path config before after := by
  obtain ⟨made, adds, current, sameTree | ⟨place, identity, count, executable, leads, rewritten⟩⟩ :=
    save_fails failed
  · have same (other : String) : after.entryAt? other = made.entryAt? other := by
      rw [Disk.entryAt?, Disk.entryAt?, Disk.find, Disk.find, current, sameTree]
    refine .inl ⟨⟨current.trans adds.adds.current, fun place => ?_⟩, fun settled => ?_⟩
    · rw [sameTree]
      exact adds.adds.places place
    · exact load_congr ((same path).trans (adds.entryAt?_eq settled))
  · have found : after.entryAt? path =
        .ok (.file identity (config.render.toUTF8.extract 0 count) executable) := by
      rw [Disk.entryAt?, leads]
    refine .inr (.intro adds.adds rewritten leads ?_)
    split
    next torn => exact stored_of_front torn found
    next whole =>
      have all {bytes : ByteArray} (enough : bytes.size ≤ count) : bytes.extract 0 count = bytes :=
        ByteArray.ext (by simpa using Or.inr enough)
      rw [all (Nat.le_of_not_lt whole)] at found
      exact stored_of_render found

/-- A disk with a file for the configuration. -/
def holding (bytes : ByteArray) (faults : List (Option Fault)) : Disk where
  tree := ⟨[("config.json", .file 0 bytes false)], 1⟩
  current := []
  faults := faults

/-- A disk with a stored configuration, when there is no space for the bytes of the next one. -/
def crowded : Disk :=
  holding standard.render.toUTF8 [none, none, some ⟨.noSpace, 0⟩]

theorem entryAt?_holding (bytes : ByteArray) (faults : List (Option Fault)) :
    (holding bytes faults).entryAt? "/config.json" = .ok (.file 0 bytes false) := by
  cbv

theorem save_crowded (config : Config) : config.save "/config.json" crowded =
    (.error (.fileSystem "/config.json" .noSpace),
      holding (config.render.toUTF8.extract 0 0) []) := by
  rw [crowded]
  generalize standard.render.toUTF8 = bytes
  have parent : Path.parent? "/config.json" = some "/" := by decide
  have made : makeDirectories "/" (holding bytes [none, none, some ⟨.noSpace, 0⟩]) =
      (.ok (), holding bytes [none, some ⟨.noSpace, 0⟩]) := by
    have present : makeDirectory "/" (holding bytes [none, none, some ⟨.noSpace, 0⟩]) =
        (.error .alreadyExists, holding bytes [none, some ⟨.noSpace, 0⟩]) := by cbv
    rw [makeDirectories]
    unfold makeDirectoriesUp
    rw [if_neg (by decide), Effect.tryCatch_of_error present, if_neg (by decide)]
    exact @acceptDirectory_of_found _ _ _ [] (by cbv)
  have opened : openForWriting "/config.json" true false
      (holding bytes [none, some ⟨.noSpace, 0⟩]) =
        (.ok (.file ["config.json"] 0 false), holding .empty [some ⟨.noSpace, 0⟩]) := by cbv
  have cut : writeText "/config.json" config.render (holding bytes [none, some ⟨.noSpace, 0⟩]) =
      (.error .noSpace, holding (config.render.toUTF8.extract 0 0) []) :=
    (Effect.bind_of_ok opened).trans rfl
  rw [save, parent]
  dsimp only
  rw [Effect.bind_of_ok (reportedFor_of_ok made), Operation.reportedFor, cut]

theorem size_render_pos (config : Config) : 0 < config.render.toUTF8.size := by
  refine Nat.pos_of_ne_zero fun none => ?_
  have empty : config.render = "" := String.utf8ByteSize_eq_zero_iff.mp none
  have parsed := parse_render config
  rw [empty] at parsed
  cases parsed

theorem stored_crowded : stored "/config.json" crowded = .ok standard :=
  stored_of_render (entryAt?_holding _ _)

theorem stored_cut (config : Config) :
    ∃ failure, stored "/config.json" (holding (config.render.toUTF8.extract 0 0) []) =
      .error failure :=
  stored_of_front (size_render_pos config) (entryAt?_holding _ _)

theorem save_failed_crowded :
    IsCutOff "/config.json" extreme crowded (holding (extreme.render.toUTF8.extract 0 0) []) := by
  refine (save_failed (save_crowded extreme)).resolve_left fun keeps => ?_
  obtain ⟨failure, lost⟩ := stored_cut extreme
  have there : crowded.entryAt? "/config.json" ≠ .error .notFound := by
    rw [crowded, entryAt?_holding]
    exact nofun
  have same := keeps.loads (.inl there) []
  cases lost.symm.trans (same.trans stored_crowded)

/-- A save that fails, and after which something else is stored. -/
def Loses (path : String) (config : Config) (before : Disk) : Prop :=
  ∃ failure after, config.save path before = (.error failure, after) ∧
    stored path after ≠ stored path before

theorem Loses.of_failure {path : String} {config old : Config} {before after : Disk}
    {failure lost : Failure} (failed : config.save path before = (.error failure, after))
    (had : stored path before = .ok old) (loses : stored path after = .error lost) :
    Loses path config before := by
  refine ⟨failure, after, failed, ?_⟩
  rw [had, loses]
  exact nofun

theorem stored_of_unread {path : String} {disk : Disk} {cause : Cause}
    (unread : (readFile path { disk with faults := [] }).1 = .error cause) :
    stored path disk = ofFile path (.error cause) := by
  rw [stored, load_answer, readText_answer, unread]
  rfl

theorem stored_of_refused {path : String} {disk : Disk} {cause : Cause}
    (refused : disk.entryAt? path = .error cause) :
    stored path disk = ofFile path (.error cause) := by
  have refusedCalm : ({ disk with faults := [] } : Disk).entryAt? path = .error cause := refused
  refine stored_of_unread ?_
  rw [readFile_answer, refusedCalm]
  rfl

/-- A disk with a directory in place of the configuration, and a path to it that leads through a
directory which is missing. -/
def occupied : Disk where
  tree := ⟨[("config.json", .directory [])], 1⟩
  current := []

def detour : String := "/missing/../config.json"

theorem save_occupied (config : Config) : ∃ after,
    config.save detour occupied = (.error (.fileSystem detour .isDirectory), after) ∧
      after.entryAt? detour = .ok .directory := by
  have answer : (config.save detour occupied).1 = .error (.fileSystem detour .isDirectory) := by
    rw [save]
    generalize config.render = text
    cbv
  have leads : (config.save detour occupied).2.entryAt? detour = .ok .directory := by
    rw [save]
    generalize config.render = text
    cbv
  exact ⟨_, Prod.ext answer rfl, leads⟩

section Long

/-- A name with one byte too many. -/
def longName : String := String.ofList (List.replicate (nameLimit + 1) 'x')

theorem size_longName : longName.utf8ByteSize = nameLimit + 1 := by
  have size (count : Nat) : (String.ofList (List.replicate count 'x')).utf8ByteSize = count := by
    induction count with
    | zero => rfl
    | succ count ih =>
        rw [List.replicate_succ, String.ofList_cons, String.utf8ByteSize_append, ih, Nat.add_comm]
        rfl
  exact size _

theorem letters_longName {letter : Char} (isMember : letter ∈ longName.toList) : letter = 'x' := by
  rw [longName, String.toList_ofList] at isMember
  exact List.eq_of_mem_replicate isMember

theorem proper_longName : Path.IsProper longName where
  noSlash inside := absurd (letters_longName inside) (by decide)
  notVoid := by
    have other (short : String) (small : short.utf8ByteSize ≤ nameLimit) : longName ≠ short := by
      rintro rfl
      rw [size_longName] at small
      omega
    simp [Path.isVoid, other "" (by decide), other "." (by decide)]
  notUp := by
    intro same
    have size := size_longName
    rw [same] at size
    cases size

def longPath : String := Path.join "/missing" longName

theorem longPath_eq : longPath = "/missing" ++ "/" ++ longName := by
  have apart := Path.isAbsolute_of_noSlash proper_longName.noSlash
  rw [longPath, Path.join_eq apart]
  rfl

theorem segments_longPath : Path.segments longPath = ["", "missing", longName] := by
  have front : Path.segments "/missing" = ["", "missing"] := by decide
  rw [longPath_eq, Path.segments_append_slash, Path.segments_of_noSlash proper_longName.noSlash,
    front]
  rfl

theorem usable_longPath : Path.IsUsable longPath where
  noNul inside := by
    rw [longPath_eq, String.toList_append, List.mem_append] at inside
    rcases inside with inside | inside
    · exact absurd inside (by decide)
    · exact absurd (letters_longName inside) (by decide)
  notEmpty := Path.join_ne_empty proper_longName _
  short := by
    rw [longPath_eq, String.utf8ByteSize_append, size_longName]
    decide

theorem isAbsolute_longPath : Path.isAbsolute longPath = true := by
  rw [longPath, Path.isAbsolute_join (Path.isAbsolute_of_noSlash proper_longName.noSlash)]
  decide

theorem parent_longPath : Path.parent? longPath = some "/missing" := by
  have named := proper_longName.notVoid
  have full : Path.dropVoidEnd ["missing", longName] = ["missing", longName] := by
    simp [Path.dropVoidEnd, named]
  rw [Path.parent?, if_pos isAbsolute_longPath, segments_longPath, List.drop_one, List.tail_cons,
    full]
  decide

theorem find_longPath {tree : Tree} {purpose : Purpose} {result : Except Cause Target}
    (ended : walk tree purpose linkLimit [] ["", "missing", longName] = result) :
    tree.find [] purpose longPath = result :=
  Tree.find_absolute _ ⟨usable_longPath, isAbsolute_longPath, segments_longPath⟩ ended

/-- A disk with nothing on it, and the same disk with one directory. -/
def bare : Disk where
  tree := ⟨[], 0⟩
  current := []

def withMissing : Disk :=
  { bare with tree := bare.tree.put ["missing"] .directory }

theorem missing_bare : bare.entryAt? longPath = .error .notFound := by
  have named : [longName].all (· = "") = false := by
    simp [Path.ne_empty_of_isProper proper_longName]
  have found : bare.find longPath = .error .notFound := by
    refine find_longPath ?_
    rw [walk_void (by decide)]
    exact walk_notFound .content ⟨by decide, by decide, by decide⟩ rfl named
  rw [Disk.entryAt?, found]

theorem refused_withMissing (purpose : Purpose) :
    withMissing.tree.find withMissing.current purpose longPath = .error .nameTooLong := by
  refine find_longPath ?_
  have named := Path.ne_empty_of_isProper proper_longName
  have inside : withMissing.tree.lookup ["missing"] = some .directory := rfl
  have long : nameLimit < longName.utf8ByteSize := by
    rw [size_longName]
    decide
  have plain : IsPlainName "missing" := ⟨by decide, by decide, by decide⟩
  rw [walk_void (by decide), walk_enter plain (by simp [named]) inside (by simp [named]), walk,
    if_neg (by simp [proper_longName.notVoid]), if_neg proper_longName.notUp, if_neg (by simp),
    if_pos long]

theorem save_bare (config : Config) : config.save longPath bare =
    (.error (.fileSystem longPath .nameTooLong), withMissing) := by
  have free : bare.findName "/missing" = .ok (.absent ["missing"] false) :=
    Tree.find_absolute ["", "missing"] (by decide) (by cbv)
  have made : makeDirectories "/missing" bare = (.ok (), withMissing) :=
    makeDirectoriesUp_of_absent _ rfl (by decide) free
  have opened : openForWriting longPath true false withMissing =
      (.error .nameTooLong, withMissing) :=
    attempt_of_error rfl (by rw [refused_withMissing])
  have refused : writeText longPath config.render withMissing = (.error .nameTooLong, withMissing) :=
    Effect.bind_of_error opened
  rw [save, parent_longPath]
  dsimp only
  rw [Effect.bind_of_ok (reportedFor_of_ok made), Operation.reportedFor, refused]

end Long

/-- A failed save can lose the stored configuration to the bytes it has stored, and turn a missing
file into one that cannot be read, through directories that it has made. -/
theorem save_failed_loses : Loses "/config.json" extreme crowded ∧
    Loses detour extreme occupied ∧ Loses longPath extreme bare := by
  refine ⟨?_, ?_, ?_⟩
  · obtain ⟨failure, lost⟩ := stored_cut extreme
    exact .of_failure (save_crowded extreme) stored_crowded lost
  · obtain ⟨after, failed, leads⟩ := save_occupied extreme
    have missing : occupied.entryAt? detour = .error .notFound := by cbv
    have unread : (readFile detour { after with faults := [] }).1 = .error .isDirectory := by
      have leadsCalm : ({ after with faults := [] } : Disk).entryAt? detour = .ok .directory := leads
      rw [readFile_answer, leadsCalm]
      rfl
    exact .of_failure failed (stored_of_refused missing) (stored_of_unread unread)
  · have refused : withMissing.entryAt? longPath = .error .nameTooLong := by
      rw [Disk.entryAt?, Disk.find, refused_withMissing]
    exact .of_failure (save_bare extreme) (stored_of_refused missing_bare)
      (stored_of_refused refused)

end Config

end SnippetSandbox
