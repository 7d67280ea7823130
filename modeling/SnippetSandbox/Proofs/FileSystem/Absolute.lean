import Mathlib.Data.List.TakeWhile
import SnippetSandbox.FileSystem.Tree
import SnippetSandbox.Proofs.FileSystem.Path

/-!
# Paths seen from the root directory

A path that is seen from the root directory has kept its names, with those of the working
directory in front of them if it was relative.  Of its slashes only two things are kept: that
there were exactly two in front, and that there was one at the end.  Seen from there again, it
stays as it is.
-/

namespace SnippetSandbox.Path

open FileSystem

/-- The slashes in front of a path. -/
def leadingSlashes (path : String) : List Char :=
  path.toList.takeWhile (· = '/')

/-- The path begins with two slashes and no third one, so it may not begin at the root
directory. -/
def isDoubled (path : String) : Bool :=
  leadingSlashes path = ['/', '/']

/-- The slashes in front of the names of a path that is seen from the root directory. -/
def origin (path : String) : String :=
  if isDoubled path then "//" else "/"

/-- The names of a path from the root directory on, if a relative one is read from this place. -/
def placed (current : Place) (path : String) : List String :=
  if isAbsolute path then names path else current.reverse ++ names path

/-- The names with a slash at the end if the path has one there. -/
def closed (path full : String) : String :=
  if endsInSlash path then join full "" else full

/-! ## Slashes -/

theorem lead_lead (base : String) : lead (lead base) = lead base := by
  rw [lead.eq_1 base]
  split
  next kept => rw [lead, if_pos kept]
  next unclosed =>
    have ends : endsInSlash (base ++ "/") = true := by simp [endsInSlash]
    rw [lead, if_pos (by simp [ends])]

theorem join_empty (base : String) : join base "" = lead base := by
  rw [join_eq rfl, String.append_empty]

/-- A slash at the end of a path makes no difference to what is put behind it. -/
theorem join_closed {name : String} (relative : isAbsolute name = false) (path full : String) :
    join (closed path full) name = join full name := by
  rw [closed]
  split
  next => rw [join_empty, join_eq relative, lead_lead, join_eq relative]
  next => rfl

theorem isAbsolute_closed (path full : String) :
    isAbsolute (closed path full) = isAbsolute full := by
  rw [closed]
  split
  next => exact isAbsolute_join rfl full
  next => rfl

theorem names_closed (path full : String) : names (closed path full) = names full := by
  rw [closed]
  split
  next => rw [names_join rfl, show names "" = [] from rfl, List.append_nil]
  next => rfl

theorem ne_empty_of_isAbsolute {path : String} (absolute : isAbsolute path = true) : path ≠ "" := by
  rintro rfl
  cases absolute

theorem leadingSlashes_append {path : String} (rest : String)
    (ends : leadingSlashes path = path.toList → leadingSlashes rest = []) :
    leadingSlashes (path ++ rest) = leadingSlashes path := by
  rw [leadingSlashes, String.toList_append, List.takeWhile_append, ← leadingSlashes,
    ← leadingSlashes]
  split
  next all =>
    have same : leadingSlashes path = path.toList :=
      (List.takeWhile_prefix _).eq_of_length all
    rw [ends same, List.append_nil, same]
  next => rfl

theorem leadingSlashes_of_relative {path : String} (relative : isAbsolute path = false) :
    leadingSlashes path = [] := by
  rw [isAbsolute, beq_eq_false_iff_ne] at relative
  rw [leadingSlashes]
  cases letters : path.toList with
  | nil => rfl
  | cons first others =>
      have isOther : first ≠ '/' := by
        rintro rfl
        exact relative (by rw [letters]; rfl)
      exact List.takeWhile_cons_of_neg (by simpa using isOther)

/-- What does not end in a slash has something behind its leading slashes. -/
theorem leadingSlashes_lead {base : String} (absolute : isAbsolute base = true) :
    leadingSlashes (lead base) = leadingSlashes base := by
  rw [lead]
  split
  next => rfl
  next unclosed =>
    refine leadingSlashes_append "/" fun same => absurd ?_ unclosed
    have letters : base.toList ≠ [] := by simpa using ne_empty_of_isAbsolute absolute
    have areSlashes (character : Char) (isMember : character ∈ base.toList) : character = '/' := by
      rw [← same] at isMember
      simpa using List.mem_takeWhile_imp isMember
    have last := areSlashes _ (List.getLast_mem letters)
    simp [endsInSlash, List.getLast?_eq_some_getLast letters, last]

/-- What is put behind an absolute path does not change how the path begins. -/
theorem leadingSlashes_join {base name : String} (absolute : isAbsolute base = true)
    (relative : isAbsolute name = false) :
    leadingSlashes (join base name) = leadingSlashes base := by
  rw [join_eq relative, leadingSlashes_append name fun _ => leadingSlashes_of_relative relative,
    leadingSlashes_lead absolute]

theorem leadingSlashes_joinAll {inner : List String} (noSlash : ∀ name ∈ inner, '/' ∉ name.toList)
    {base : String} (absolute : isAbsolute base = true) :
    leadingSlashes (joinAll base inner) = leadingSlashes base := by
  induction inner generalizing base with
  | nil => rfl
  | cons name inner ih =>
      obtain ⟨first, others⟩ := List.forall_mem_cons.mp noSlash
      have relative := isAbsolute_of_noSlash first
      have behind : isAbsolute (join base name) = true := by
        rw [isAbsolute_join relative, absolute]
      rw [joinAll, List.foldl_cons, ← joinAll, ih others behind,
        leadingSlashes_join absolute relative]

theorem leadingSlashes_closed {full : String} (absolute : isAbsolute full = true) (path : String) :
    leadingSlashes (closed path full) = leadingSlashes full := by
  rw [closed]
  split
  next => rw [join_empty, leadingSlashes_lead absolute]
  next => rfl

/-- What has a slash at its end, if it should, needs no further one. -/
theorem closed_closed {full : String} (absolute : isAbsolute full = true) (path : String) :
    closed (closed path full) full = closed path full := by
  have some := ne_empty_of_isAbsolute absolute
  rw [closed.eq_1 path]
  split
  next =>
    have ends : endsInSlash (join full "") = true := by
      rw [join_empty, lead]
      by_cases ends : endsInSlash full = true
      · simp [ends]
      · rw [if_neg (by simp [ends, some])]
        simp [endsInSlash]
    rw [closed, if_pos ends]
  next =>
    rw [closed]
    split
    next ends => rw [join_empty, lead, if_pos (by simp [ends])]
    next => rfl

theorem isAbsolute_origin (path : String) : isAbsolute (origin path) = true := by
  rw [origin]
  split <;> rfl

theorem names_origin (path : String) : names (origin path) = [] := by
  rw [origin]
  split <;> decide

theorem isDoubled_origin (path : String) : isDoubled (origin path) = isDoubled path := by
  rw [origin]
  split
  next doubled => rw [doubled]; decide
  next single => rw [Bool.eq_false_iff.mpr single]; decide

/-! ## Seen from the root directory -/

theorem isDoubled_of_relative {path : String} (relative : isAbsolute path = false) :
    isDoubled path = false := by
  rw [isDoubled, leadingSlashes_of_relative relative]
  rfl

/-- Three slashes in front are as good as one, and two are not. -/
theorem origin_eq (path : String) :
    (match path.toList with
      | '/' :: '/' :: '/' :: _ => "/"
      | '/' :: '/' :: _ => "//"
      | _ => "/") = origin path := by
  rw [origin, isDoubled, leadingSlashes]
  split
  next written => simp [written]
  next rest noThird written =>
    have isTwo : (path.toList.takeWhile (· = '/')) = ['/', '/'] := by
      rw [written]
      cases rest with
      | nil => rfl
      | cons third rest =>
          have other : third ≠ '/' := by
            rintro rfl
            exact noThird _ rfl
          simp [other]
    simp [isTwo]
  next noThird noSecond =>
    have notTwo : (path.toList.takeWhile (· = '/')) ≠ ['/', '/'] := by
      intro isTwo
      obtain ⟨rest, written⟩ := List.takeWhile_prefix (· = '/') (l := path.toList)
      rw [isTwo] at written
      exact noSecond _ written.symm
    simp [notTwo]

theorem absolute_of_isAbsolute {path : String} (absolute : isAbsolute path = true)
    (elsewhere : String) :
    Path.absolute elsewhere path = .ok (closed path (joinAll (origin path) (names path))) := by
  rw [Path.absolute, if_neg (ne_empty_of_isAbsolute absolute), if_pos absolute]
  exact congrArg (fun start => Except.ok (closed path (joinAll start (names path))))
    (origin_eq path)

/-! ## Working directories -/

section Working

variable {current : Place} (proper : ∀ name ∈ current, IsProper name)
include proper

/-- The path of a place is made of the names on the way to it. -/
theorem path_eq_joinAll : current.path = joinAll "/" current.reverse := by
  induction current with
  | nil => rfl
  | cons name around ih =>
      obtain ⟨isName, properAround⟩ := List.forall_mem_cons.mp proper
      rw [List.reverse_cons, joinAll_concat, ← ih properAround]
      cases around with
      | nil => simp [Place.path, join, isAbsolute_of_noSlash isName.noSlash, endsInSlash]
      | cons last others =>
          have isLast := properAround last List.mem_cons_self
          have unclosed : endsInSlash (Place.path (last :: others)) = false := by
            rw [ih properAround, List.reverse_cons, joinAll_concat]
            exact endsInSlash_join isLast _
          have some : Place.path (last :: others) ≠ "" := by simp [Place.path]
          rw [join, if_neg (by simp [isAbsolute_of_noSlash isName.noSlash, some]),
            if_neg (by simp [unclosed])]
          simp [Place.path]

theorem isAbsolute_path : isAbsolute current.path = true := by
  rw [path_eq_joinAll proper,
    isAbsolute_joinAll fun name isAround => (proper name (List.mem_reverse.mp isAround)).noSlash]
  rfl

theorem names_path : names current.path = current.reverse := by
  rw [path_eq_joinAll proper,
    names_joinAll fun name isAround => proper name (List.mem_reverse.mp isAround)]
  rfl

theorem isDoubled_path : isDoubled current.path = false := by
  rw [path_eq_joinAll proper, isDoubled, leadingSlashes_joinAll
    (fun name isAround => (proper name (List.mem_reverse.mp isAround)).noSlash) rfl]
  rfl

theorem plain_of_mem_placed {path name : String} (isMember : name ∈ placed current path) :
    '/' ∉ name.toList ∧ isVoid name = false := by
  have ofPath (isName : name ∈ names path) : '/' ∉ name.toList ∧ isVoid name = false :=
    ⟨noSlash_of_mem_names isName, notVoid_of_mem_names isName⟩
  rw [placed] at isMember
  split at isMember
  next => exact ofPath isMember
  next =>
    rcases List.mem_append.mp isMember with isAround | isName
    · have isProper := proper name (List.mem_reverse.mp isAround)
      exact ⟨isProper.noSlash, isProper.notVoid⟩
    · exact ofPath isName

theorem names_joinAll_placed (base path : String) :
    names (joinAll base (placed current path)) = names base ++ placed current path :=
  names_joinAll_of_noSlash (fun _ isMember => (plain_of_mem_placed proper isMember).1)
    (fun _ isMember => (plain_of_mem_placed proper isMember).2) base

/-- A path that is seen from the root directory begins like the written one and has its names
and those of the working directory. -/
theorem absolute_eq {path : String} (some : path ≠ "") :
    absolute current.path path =
      .ok (closed path (joinAll (origin path) (placed current path))) := by
  by_cases isRooted : isAbsolute path = true
  · rw [absolute_of_isAbsolute isRooted, placed, if_pos isRooted]
  · have single : isDoubled path = false := isDoubled_of_relative (Bool.eq_false_iff.mpr isRooted)
    rw [absolute, if_neg some]
    dsimp only
    rw [if_neg isRooted, placed, if_neg isRooted, origin, single, joinAll_append,
      path_eq_joinAll proper]
    rfl

theorem isAbsolute_joinAll_placed (path : String) :
    isAbsolute (joinAll (origin path) (placed current path)) = true := by
  rw [isAbsolute_joinAll fun _ isMember => (plain_of_mem_placed proper isMember).1,
    isAbsolute_origin]

theorem isDoubled_joinAll_placed (path : String) :
    isDoubled (joinAll (origin path) (placed current path)) = isDoubled path := by
  rw [isDoubled, leadingSlashes_joinAll
    (fun _ isMember => (plain_of_mem_placed proper isMember).1) (isAbsolute_origin path),
    ← isDoubled, isDoubled_origin]

/-- Seen from the root directory again, a path stays as it is, whatever the working directory. -/
theorem absolute_absolute {path root : String} (made : absolute current.path path = .ok root)
    (elsewhere : String) : absolute elsewhere root = .ok root := by
  have some : path ≠ "" := by
    rintro rfl
    cases made
  -- What is made of a path depends on its names, its front and its end, and all three are kept.
  have isRooted := isAbsolute_joinAll_placed proper path
  have sameNames := names_joinAll_placed proper (origin path) path
  have sameFront := isDoubled_joinAll_placed proper path
  rw [absolute_eq proper some] at made
  obtain rfl := Except.ok.inj made
  have again : names (closed path (joinAll (origin path) (placed current path))) =
      placed current path := by
    rw [names_closed, sameNames, names_origin, List.nil_append]
  have front : origin (closed path (joinAll (origin path) (placed current path))) =
      origin path := by
    rw [origin, isDoubled, leadingSlashes_closed isRooted, ← isDoubled, sameFront, origin]
  rw [absolute_of_isAbsolute (by rw [isAbsolute_closed, isRooted]), again, front,
    closed_closed isRooted]

end Working

end SnippetSandbox.Path
