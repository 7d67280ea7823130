import Mathlib.Data.List.DropRight
import SnippetSandbox.FileSystem.Path

/-!
# What paths are made of

A name without slashes that is put behind a path becomes its last segment, and the
names before it are those of the path.  So the names of a path below a base are those
of the base and then the ones that were put behind it.
-/

namespace SnippetSandbox

namespace Text

theorem splitOn_eq (separator : Char) (text : List Char) :
    splitOn separator text = text.splitOn separator := by
  induction text with
  | nil => rfl
  | cons character text ih =>
      rw [splitOn, List.splitOn_cons_eq_if_modifyHead, ih]
      by_cases same : character = separator
      · simp [same]
      · rw [if_neg same, if_neg (by simpa using same)]
        cases pieces : text.splitOn separator with
        | nil => exact absurd pieces (List.splitOn_ne_nil separator text)
        | cons piece others => rfl

theorem not_mem_of_mem_splitOn {separator : Char} {text piece : List Char}
    (isPiece : piece ∈ splitOn separator text) : separator ∉ piece := by
  induction text generalizing piece with
  | nil => simp_all [splitOn]
  | cons character text ih =>
      rw [splitOn_eq, List.splitOn_cons_eq_if_modifyHead, ← splitOn_eq] at isPiece
      by_cases same : character = separator
      · rw [if_pos (by simpa using same)] at isPiece
        rcases List.mem_cons.mp isPiece with rfl | isPiece
        · simp
        · exact ih isPiece
      · rw [if_neg (by simpa using same)] at isPiece
        cases pieces : splitOn separator text with
        | nil => simp [pieces] at isPiece
        | cons first others =>
            rw [pieces] at ih isPiece
            rcases List.mem_cons.mp isPiece with rfl | isPiece
            · simpa [Ne.symm same] using ih List.mem_cons_self
            · exact ih (List.mem_cons_of_mem _ isPiece)

theorem splitOn_intercalate {separator : Char} {between : String} {texts : List String}
    (written : between.toList = [separator]) (free : ∀ text ∈ texts, separator ∉ text.toList)
    (some : texts ≠ []) :
    (splitOn separator (between.intercalate texts).toList).map String.ofList = texts := by
  have apart (letters : List Char) (isPart : letters ∈ texts.map String.toList) :
      separator ∉ letters := by
    obtain ⟨text, isMember, rfl⟩ := List.mem_map.mp isPart
    exact free text isMember
  rw [splitOn_eq, String.toList_intercalate, written,
    List.splitOn_intercalate separator apart (by simpa using some), List.map_map]
  simp [Function.comp_def]

end Text

namespace Path

/-- A name that an entry of a directory can have. -/
structure IsProper (name : String) : Prop where
  noSlash : '/' ∉ name.toList
  notVoid : isVoid name = false
  notUp : name ≠ ".."

instance (name : String) : Decidable (IsProper name) :=
  decidable_of_iff ('/' ∉ name.toList ∧ isVoid name = false ∧ name ≠ "..")
    ⟨fun ⟨noSlash, notVoid, notUp⟩ => ⟨noSlash, notVoid, notUp⟩,
      fun proper => ⟨proper.noSlash, proper.notVoid, proper.notUp⟩⟩

theorem ne_empty_of_isProper {name : String} (proper : IsProper name) : name ≠ "" := by
  rintro rfl
  exact absurd proper.notVoid (by decide)

theorem isAbsolute_of_noSlash {name : String} (noSlash : '/' ∉ name.toList) :
    isAbsolute name = false := by
  rw [isAbsolute, beq_eq_false_iff_ne]
  intro starts
  exact noSlash (List.mem_of_head? starts)

theorem segments_append_slash (first second : String) :
    segments (first ++ "/" ++ second) = segments first ++ segments second := by
  have split := List.splitOn_append_cons_self (a := '/') first.toList second.toList
  simp only [segments, Text.splitOn_eq, String.toList_append, List.append_assoc]
  rw [show "/".toList ++ second.toList = '/' :: second.toList from rfl, split, List.map_append]

theorem names_append_slash (first second : String) :
    names (first ++ "/" ++ second) = names first ++ names second := by
  rw [names, segments_append_slash, List.filter_append]
  rfl

theorem segments_of_noSlash {name : String} (noSlash : '/' ∉ name.toList) :
    segments name = [name] := by
  rw [segments, Text.splitOn_eq, List.splitOn_eq_singleton noSlash]
  simp

theorem segments_intercalate {first : String} {others : List String}
    (noSlash : ∀ segment ∈ first :: others, '/' ∉ segment.toList) :
    segments ("/".intercalate (first :: others)) = first :: others :=
  Text.splitOn_intercalate rfl noSlash (by simp)

theorem eq_append_of_endsInSlash {path : String} (ends : endsInSlash path = true) :
    ∃ front, path = front ++ "/" := by
  rw [endsInSlash, beq_iff_eq] at ends
  obtain ⟨front, written⟩ := List.getLast?_eq_some_iff.mp ends
  refine ⟨String.ofList front, ?_⟩
  rw [← String.toList_inj]
  simpa using written

/-- A path with what has to stand before a name that is put behind it. -/
def lead (base : String) : String :=
  if base = "" || endsInSlash base then base else base ++ "/"

theorem join_eq {name : String} (relative : isAbsolute name = false) (base : String) :
    join base name = lead base ++ name := by
  rw [join, lead, relative]
  by_cases empty : base = ""
  · simp [empty]
  · by_cases ends : endsInSlash base = true <;> simp [empty, ends]

/-- Before a name stand the names of the path and segments that name nothing. -/
theorem segments_lead (base name : String) :
    ∃ front, segments (lead base ++ name) = front ++ segments name ∧
      (front.filter fun segment => !isVoid segment) = names base := by
  rw [lead]
  by_cases empty : base = ""
  · exact ⟨[], by simp [empty], by rw [empty]; rfl⟩
  · by_cases ends : endsInSlash base = true
    · obtain ⟨front, rfl⟩ := eq_append_of_endsInSlash ends
      refine ⟨segments front, ?_, ?_⟩
      · rw [if_pos (by simp [ends]), segments_append_slash]
      · have behind := segments_append_slash front ""
        rw [String.append_empty] at behind
        rw [names, behind, List.filter_append]
        simp [segments, Text.splitOn, isVoid]
    · refine ⟨segments base, ?_, rfl⟩
      rw [if_neg (by simp [empty, ends]), segments_append_slash]

theorem names_join {name : String} (relative : isAbsolute name = false) (base : String) :
    names (join base name) = names base ++ names name := by
  obtain ⟨front, split, same⟩ := segments_lead base name
  rw [join_eq relative, names, split, List.filter_append, same]
  rfl

theorem names_of_noSlash {name : String} (noSlash : '/' ∉ name.toList)
    (notVoid : isVoid name = false) : names name = [name] := by
  rw [names, segments_of_noSlash noSlash]
  simp [notVoid]

theorem names_of_isProper {name : String} (proper : IsProper name) : names name = [name] :=
  names_of_noSlash proper.noSlash proper.notVoid

/-- Names are found again behind the path they are put behind, two dots like any other. -/
theorem names_joinAll_of_noSlash {inner : List String} (noSlash : ∀ name ∈ inner, '/' ∉ name.toList)
    (notVoid : ∀ name ∈ inner, isVoid name = false) (base : String) :
    names (joinAll base inner) = names base ++ inner := by
  induction inner generalizing base with
  | nil => simp [joinAll]
  | cons name inner ih =>
      obtain ⟨free, othersFree⟩ := List.forall_mem_cons.mp noSlash
      obtain ⟨some, othersSome⟩ := List.forall_mem_cons.mp notVoid
      rw [joinAll, List.foldl_cons, ← joinAll, ih othersFree othersSome,
        names_join (isAbsolute_of_noSlash free), names_of_noSlash free some]
      simp

theorem names_joinAll {inner : List String} (proper : ∀ name ∈ inner, IsProper name)
    (base : String) : names (joinAll base inner) = names base ++ inner :=
  names_joinAll_of_noSlash (fun name isMember => (proper name isMember).noSlash)
    (fun name isMember => (proper name isMember).notVoid) base

theorem isAbsolute_append {path : String} (some : path ≠ "") (rest : String) :
    isAbsolute (path ++ rest) = isAbsolute path := by
  cases letters : path.toList with
  | nil => exact absurd (String.toList_eq_nil_iff.mp letters) some
  | cons => simp [isAbsolute, letters]

theorem isAbsolute_join {name : String} (relative : isAbsolute name = false) (base : String) :
    isAbsolute (join base name) = isAbsolute base := by
  rw [join, relative]
  by_cases empty : base = ""
  · simpa [empty, isAbsolute] using relative
  · by_cases ends : endsInSlash base = true <;>
      simp [empty, ends, String.append_assoc, isAbsolute_append]

theorem isAbsolute_joinAll {inner : List String} (noSlash : ∀ name ∈ inner, '/' ∉ name.toList)
    (base : String) : isAbsolute (joinAll base inner) = isAbsolute base := by
  induction inner generalizing base with
  | nil => rfl
  | cons name inner ih =>
      have first := noSlash name List.mem_cons_self
      rw [joinAll, List.foldl_cons, ← joinAll,
        ih fun other isMember => noSlash other (List.mem_cons_of_mem _ isMember),
        isAbsolute_join (isAbsolute_of_noSlash first)]

theorem joinAll_append (base : String) (names inner : List String) :
    joinAll base (names ++ inner) = joinAll (joinAll base names) inner :=
  List.foldl_append

theorem joinAll_concat (base : String) (names : List String) (name : String) :
    joinAll base (names ++ [name]) = join (joinAll base names) name :=
  joinAll_append base names [name]

/-- A path that is not empty stands before the names that are put behind it. -/
theorem join_eq_append {base name : String} (relative : isAbsolute name = false)
    (some : base ≠ "") : ∃ rest, join base name = base ++ rest := by
  rw [join_eq relative, lead]
  by_cases ends : endsInSlash base = true
  · exact ⟨name, by simp [ends]⟩
  · exact ⟨"/" ++ name, by simp [ends, some, String.append_assoc]⟩

theorem join_ne_empty {name : String} (proper : IsProper name) (base : String) :
    join base name ≠ "" := by
  rw [join_eq (isAbsolute_of_noSlash proper.noSlash)]
  simp [ne_empty_of_isProper proper]

theorem endsInSlash_join {name : String} (proper : IsProper name) (base : String) :
    endsInSlash (join base name) = false := by
  have letters : name.toList ≠ [] := by simpa using ne_empty_of_isProper proper
  rw [join_eq (isAbsolute_of_noSlash proper.noSlash), endsInSlash, beq_eq_false_iff_ne,
    String.toList_append, List.getLast?_append, List.getLast?_eq_some_getLast letters,
    Option.some_or]
  intro ends
  exact proper.noSlash (Option.some.inj ends ▸ List.getLast_mem letters)

theorem lead_join {name : String} (proper : IsProper name) (base : String) :
    lead (join base name) = lead base ++ name ++ "/" := by
  rw [lead, if_neg (by simp [endsInSlash_join proper, join_ne_empty proper]),
    join_eq (isAbsolute_of_noSlash proper.noSlash)]

theorem length_le_joinAll {inner : List String} (proper : ∀ name ∈ inner, IsProper name)
    (base : String) : base.utf8ByteSize + inner.length ≤ (joinAll base inner).utf8ByteSize := by
  induction inner generalizing base with
  | nil => simp [joinAll]
  | cons name inner ih =>
      have first := proper name List.mem_cons_self
      have rest := ih (fun other isMember => proper other (List.mem_cons_of_mem _ isMember))
        (join base name)
      have some : name.utf8ByteSize ≠ 0 := by
        simpa [String.utf8ByteSize_eq_zero_iff] using ne_empty_of_isProper first
      have longer : base.utf8ByteSize ≤ (lead base).utf8ByteSize := by
        rw [lead]
        split <;> simp [String.utf8ByteSize_append]
      have whole : (join base name).utf8ByteSize =
          (lead base).utf8ByteSize + name.utf8ByteSize := by
        rw [join_eq (isAbsolute_of_noSlash first.noSlash), String.utf8ByteSize_append]
      rw [joinAll, List.foldl_cons, ← joinAll, List.length_cons]
      omega

theorem joinAll_eq {name : String} {inner : List String}
    (proper : ∀ other ∈ name :: inner, IsProper other) (base : String) :
    joinAll base (name :: inner) = lead base ++ "/".intercalate (name :: inner) := by
  induction inner generalizing base name with
  | nil =>
      have noSlash := (proper name List.mem_cons_self).noSlash
      simp [joinAll, join_eq (isAbsolute_of_noSlash noSlash)]
  | cons next inner ih =>
      have first := proper name List.mem_cons_self
      have rest := ih (fun other isMember => proper other (List.mem_cons_of_mem _ isMember))
        (join base name)
      rw [joinAll, List.foldl_cons, ← joinAll, rest, lead_join first]
      simp [String.append_assoc]

/-- Proper names behind a path are its last segments, and those before them name it. -/
theorem segments_joinAll {name : String} {inner : List String}
    (proper : ∀ other ∈ name :: inner, IsProper other) (base : String) :
    ∃ front, segments (joinAll base (name :: inner)) = front ++ name :: inner ∧
      (front.filter fun segment => !isVoid segment) = names base := by
  obtain ⟨front, written, same⟩ := segments_lead base ("/".intercalate (name :: inner))
  refine ⟨front, ?_, same⟩
  rw [joinAll_eq proper, written,
    segments_intercalate fun other isMember => (proper other isMember).noSlash]

theorem noSlash_of_mem_segments {path segment : String} (isMember : segment ∈ segments path) :
    '/' ∉ segment.toList := by
  obtain ⟨letters, isPiece, rfl⟩ := List.mem_map.mp isMember
  simpa using Text.not_mem_of_mem_splitOn isPiece

theorem noSlash_of_mem_names {path name : String} (isMember : name ∈ names path) :
    '/' ∉ name.toList :=
  noSlash_of_mem_segments (List.mem_filter.mp isMember).1

theorem notVoid_of_mem_names {path name : String} (isMember : name ∈ names path) :
    isVoid name = false := by
  simpa using (List.mem_filter.mp isMember).2

/-- The names of a path are found again behind the path they are put behind. -/
theorem names_joinAll_names (base path : String) :
    names (joinAll base (names path)) = names base ++ names path :=
  names_joinAll_of_noSlash (fun _ => noSlash_of_mem_names) (fun _ => notVoid_of_mem_names) base

theorem names_intercalate {written : List String}
    (noSlash : ∀ segment ∈ written, '/' ∉ segment.toList) :
    names ("/".intercalate written) = written.filter fun segment => !isVoid segment := by
  cases written with
  | nil => rfl
  | cons segment others =>
      rw [names, segments_intercalate noSlash]

theorem dropVoidEnd_eq (written : List String) : dropVoidEnd written = written.rdropWhile isVoid :=
  rfl

theorem filter_dropVoidEnd (written : List String) :
    ((dropVoidEnd written).filter fun segment => !isVoid segment) =
      written.filter fun segment => !isVoid segment := by
  rw [dropVoidEnd_eq]
  induction written using List.reverseRecOn with
  | nil => rfl
  | append_singleton written last ih =>
      rw [List.rdropWhile_concat]
      split
      next blank => simp [ih, blank]
      next => rfl

theorem dropVoidEnd_eq_nil {written : List String}
    (blank : (written.filter fun segment => !isVoid segment) = []) : dropVoidEnd written = [] := by
  rw [dropVoidEnd_eq, List.rdropWhile_eq_nil_iff]
  simpa using blank

theorem isPrefix_dropVoidEnd (written : List String) : dropVoidEnd written <+: written :=
  List.rdropWhile_prefix isVoid written

theorem dropVoidEnd_last {written front : List String} {last : String}
    (whole : dropVoidEnd written = front ++ [last]) : isVoid last = false := by
  rw [dropVoidEnd_eq] at whole
  simpa [whole] using List.rdropWhile_last_not isVoid written (by simp [whole])

theorem filter_dropLast_dropVoidEnd (written : List String) :
    ((dropVoidEnd written).dropLast.filter fun segment => !isVoid segment) =
      (written.filter fun segment => !isVoid segment).dropLast := by
  rw [← filter_dropVoidEnd written]
  rcases List.eq_nil_or_concat (dropVoidEnd written) with nothing | ⟨front, last, whole⟩
  · simp [nothing]
  · rw [List.concat_eq_append] at whole
    simp [whole, List.filter_append, dropVoidEnd_last whole]

theorem segments_of_isAbsolute {path : String} (absolute : isAbsolute path = true) :
    segments path = "" :: (segments path).drop 1 := by
  rw [isAbsolute, beq_iff_eq] at absolute
  obtain ⟨rest, starts⟩ := List.head?_eq_some_iff.mp absolute
  have written : path = "" ++ "/" ++ String.ofList rest := by
    rw [← String.toList_inj, starts]
    simp
  rw [written, segments_append_slash]
  rfl

theorem segments_eq_empty_cons {path : String} {others : List String}
    (written : segments path = "" :: others) :
    path = "" ∧ others = [] ∨ isAbsolute path = true := by
  cases letters : path.toList with
  | nil =>
      obtain rfl : path = "" := by simpa using letters
      exact .inl ⟨rfl, (List.cons.inj written).2.symm⟩
  | cons first rest =>
      by_cases slash : first = '/'
      · exact .inr (by simp [isAbsolute, letters, slash])
      · rw [segments, letters, Text.splitOn] at written
        rw [if_neg slash] at written
        cases pieces : Text.splitOn '/' rest <;> simp [pieces] at written

theorem isAbsolute_intercalate {first : String} (some : first ≠ "")
    (noSlash : '/' ∉ first.toList) (others : List String) :
    isAbsolute ("/".intercalate (first :: others)) = false := by
  have letters : first.toList ≠ [] := by simpa using some
  rw [isAbsolute, beq_eq_false_iff_ne, String.toList_intercalate]
  intro starts
  refine noSlash (List.mem_of_head? ?_)
  rw [← starts]
  cases others <;> simp [List.intercalate, List.head?_append, List.head?_eq_some_head letters]

/-- A path is what its segments are with slashes between them. -/
theorem intercalate_segments (path : String) : "/".intercalate (segments path) = path := by
  have same : String.toList ∘ String.ofList = id := by
    funext letters
    simp
  rw [← String.toList_inj, String.toList_intercalate, segments, Text.splitOn_eq, List.map_map, same,
    List.map_id]
  exact List.intercalate_splitOn '/'

theorem isPrefix_intercalate {front written : List String} (isPrefix : front <+: written) :
    ∃ rest, "/".intercalate written = "/".intercalate front ++ rest := by
  obtain ⟨others, rfl⟩ := isPrefix
  by_cases noFront : front = []
  · exact ⟨"/".intercalate others, by simp [noFront]⟩
  · by_cases noOthers : others = []
    · exact ⟨"", by simp [noOthers]⟩
    · refine ⟨"/" ++ "/".intercalate others, ?_⟩
      rw [String.intercalate_append_of_ne_nil noFront noOthers, String.append_assoc]

/-- The segments before the last name. -/
def beforeLast (written : List String) : List String :=
  dropVoidEnd (dropVoidEnd written).dropLast

theorem isPrefix_beforeLast (written : List String) : beforeLast written <+: written :=
  (isPrefix_dropVoidEnd _).trans ((List.dropLast_prefix _).trans (isPrefix_dropVoidEnd _))

theorem filter_beforeLast (written : List String) :
    ((beforeLast written).filter fun segment => !isVoid segment) =
      (written.filter fun segment => !isVoid segment).dropLast := by
  rw [beforeLast, filter_dropVoidEnd, filter_dropLast_dropVoidEnd]

/-- The spellings of a path that has a parent, each with that parent. -/
inductive HasParent (path : String) : String → Prop
  /-- From the root directory something is named. -/
  | rooted (absolute : isAbsolute path = true) (some : dropVoidEnd ((segments path).drop 1) ≠ []) :
      HasParent path ("/" ++ "/".intercalate (beforeLast ((segments path).drop 1)))
  /-- Nothing is named behind the first segment. -/
  | alone {first : String} {others : List String} (relative : isAbsolute path = false)
      (written : segments path = first :: others) (blank : others.all isVoid = true)
      (some : first ≠ "") : HasParent path ""
  /-- Something is named behind the first segment. -/
  | inside {first : String} {others : List String} (relative : isAbsolute path = false)
      (written : segments path = first :: others) (named : others.all isVoid = false) :
      HasParent path ("/".intercalate (first :: beforeLast others))

theorem parent?_eq_some_iff {path around : String} :
    parent? path = some around ↔ HasParent path around := by
  -- The definition is opened here only; what holds of a parent is shown for each spelling.
  constructor
  · intro isParent
    rw [parent?] at isParent
    by_cases absolute : isAbsolute path = true
    · rw [if_pos absolute] at isParent
      split at isParent
      next => cases isParent
      next some =>
        cases isParent
        exact .rooted absolute some
    · rw [if_neg absolute] at isParent
      have relative := Bool.eq_false_iff.mpr absolute
      split at isParent
      next => cases isParent
      next first others written =>
        split at isParent
        next blank =>
          split at isParent
          next => cases isParent
          next some =>
            cases isParent
            exact .alone relative written blank some
        next named =>
          cases isParent
          exact .inside relative written (Bool.eq_false_iff.mpr named)
  · rintro (⟨absolute, some⟩ | ⟨relative, written, blank, some⟩ | ⟨relative, written, named⟩)
    · rw [parent?, if_pos absolute]
      split
      next nothing => exact absurd nothing some
      next => rfl
    · simp [parent?, relative, written, blank, some]
    · simp [parent?, relative, written, named, beforeLast]

theorem segments_rooted {first : String} {others : List String}
    (noSlash : ∀ segment ∈ first :: others, '/' ∉ segment.toList) :
    segments ("/" ++ "/".intercalate (first :: others)) = "" :: first :: others := by
  have split := segments_append_slash "" ("/".intercalate (first :: others))
  rw [String.empty_append, segments_intercalate noSlash] at split
  exact split

theorem names_rooted {written : List String}
    (noSlash : ∀ segment ∈ written, '/' ∉ segment.toList) :
    names ("/" ++ "/".intercalate written) = written.filter fun segment => !isVoid segment := by
  have split := names_append_slash "" ("/".intercalate written)
  rw [String.empty_append, names_intercalate noSlash] at split
  exact split

theorem names_of_isAbsolute {path : String} (absolute : isAbsolute path = true) :
    names path = ((segments path).drop 1).filter fun segment => !isVoid segment := by
  rw [names, segments_of_isAbsolute absolute]
  rfl

section Parents

variable {path around : String}

theorem noSlash_of_mem_beforeLast {written : List String} (within : written ⊆ segments path)
    {segment : String} (isMember : segment ∈ beforeLast written) : '/' ∉ segment.toList :=
  noSlash_of_mem_segments (within ((isPrefix_beforeLast written).subset isMember))

theorem noSlash_of_mem_inside {first : String} {others : List String}
    (written : segments path = first :: others) {segment : String}
    (isMember : segment ∈ first :: beforeLast others) : '/' ∉ segment.toList := by
  rcases List.mem_cons.mp isMember with rfl | isMember
  · exact noSlash_of_mem_segments (written ▸ List.mem_cons_self)
  · exact noSlash_of_mem_beforeLast (written ▸ List.subset_cons_self _ _) isMember

/-- A path and its parent start at the same directory, and the parent has the names of
the path without the last. -/
theorem names_parent (isParent : parent? path = some around) :
    isAbsolute around = isAbsolute path ∧ names around = (names path).dropLast := by
  cases parent?_eq_some_iff.mp isParent with
  | rooted absolute some =>
      refine ⟨by rw [absolute]; simp [isAbsolute], ?_⟩
      rw [names_rooted fun _ => noSlash_of_mem_beforeLast (List.drop_subset 1 _),
        filter_beforeLast, names_of_isAbsolute absolute]
  | alone relative written blank some =>
      refine ⟨relative.symm, ?_⟩
      rw [names.eq_1 path, written, List.filter_cons,
        List.filter_eq_nil_iff.mpr (by simpa using blank)]
      split <;> rfl
  | @inside first others relative written named =>
      have some : first ≠ "" := by
        rintro rfl
        rcases segments_eq_empty_cons written with ⟨-, rfl⟩ | absolute
        · simp at named
        · exact Bool.false_ne_true (relative.symm.trans absolute)
      have noSlash {segment : String} (isMember : segment ∈ first :: beforeLast others) :=
        noSlash_of_mem_inside written isMember
      have more : (others.filter fun segment => !isVoid segment) ≠ [] := by
        simpa [List.filter_eq_nil_iff] using named
      refine ⟨(isAbsolute_intercalate some (noSlash List.mem_cons_self) _).trans relative.symm, ?_⟩
      rw [names_intercalate fun _ => noSlash, List.filter_cons, filter_beforeLast,
        names.eq_1 path, written, List.filter_cons]
      split
      · rw [List.dropLast_cons_of_ne_nil more]
      · rfl

/-- The directory around a name behind a path is spelled like that path. -/
theorem names_parent_join {base name around : String} (proper : IsProper name)
    (isParent : parent? (join base name) = some around) :
    isAbsolute around = isAbsolute base ∧ names around = names base := by
  have relative : isAbsolute name = false := isAbsolute_of_noSlash proper.noSlash
  obtain ⟨sameStart, fewer⟩ := names_parent isParent
  rw [names_join relative, names_of_isProper proper, List.dropLast_concat] at fewer
  exact ⟨sameStart.trans (isAbsolute_join relative base), fewer⟩

theorem isPrefix_parent (isParent : parent? path = some around) :
    ∃ rest, path = around ++ rest := by
  have whole := intercalate_segments path
  cases parent?_eq_some_iff.mp isParent with
  | rooted absolute some =>
      have more : (segments path).drop 1 ≠ [] := by
        intro nothing
        exact some (by rw [nothing]; rfl)
      rw [segments_of_isAbsolute absolute, String.intercalate_cons_of_ne_nil more] at whole
      obtain ⟨rest, spelled⟩ := isPrefix_intercalate (isPrefix_beforeLast ((segments path).drop 1))
      refine ⟨rest, ?_⟩
      rw [String.append_assoc, ← spelled]
      simpa using whole.symm
  | alone => exact ⟨path, (String.empty_append).symm⟩
  | @inside first others relative written named =>
      have isPrefix : first :: beforeLast others <+: first :: others :=
        List.cons_prefix_cons.mpr ⟨rfl, isPrefix_beforeLast others⟩
      obtain ⟨rest, spelled⟩ := isPrefix_intercalate isPrefix
      rw [written] at whole
      exact ⟨rest, whole.symm.trans spelled⟩

/-- Segments of which the void ones at the end have been dropped end with a name. -/
theorem exists_last {first : String} {written : List String}
    (named : ((first :: dropVoidEnd written).filter fun segment => !isVoid segment) ≠ []) :
    ∃ front last, first :: dropVoidEnd written = front ++ [last] ∧ isVoid last = false := by
  rcases List.eq_nil_or_concat (dropVoidEnd written) with nothing | ⟨front, last, whole⟩
  · refine ⟨[], first, by simp [nothing], ?_⟩
    simpa [nothing] using named
  · rw [List.concat_eq_append] at whole
    exact ⟨first :: front, last, by simp [whole], dropVoidEnd_last whole⟩

/-- The parent of a path ends with its last name, if it has one. -/
theorem segments_parent (isParent : parent? path = some around) (named : names around ≠ []) :
    ∃ front last, segments around = front ++ [last] ∧ isVoid last = false := by
  cases parent?_eq_some_iff.mp isParent with
  | rooted absolute some =>
      cases front : beforeLast ((segments path).drop 1) with
      | nil => exact absurd (by rw [front]; rfl) named
      | cons first others =>
          have spelled := segments_rooted fun _ isMember =>
            noSlash_of_mem_beforeLast (List.drop_subset 1 _) (front ▸ isMember)
          rw [front, names, spelled, ← front] at named
          rw [spelled, ← front]
          exact exists_last named
  | alone => exact absurd rfl named
  | inside relative written more =>
      rw [names_intercalate fun _ => noSlash_of_mem_inside written] at named
      rw [segments_intercalate fun _ => noSlash_of_mem_inside written]
      exact exists_last named

theorem exists_parent (named : names path ≠ []) : ∃ around, parent? path = some around := by
  simp only [parent?_eq_some_iff]
  by_cases absolute : isAbsolute path = true
  · refine ⟨_, .rooted absolute fun nothing => named ?_⟩
    rw [names_of_isAbsolute absolute, ← filter_dropVoidEnd, nothing]
    rfl
  · have relative := Bool.eq_false_iff.mpr absolute
    cases written : segments path with
    | nil => simp [names, written] at named
    | cons first others =>
        cases blank : others.all isVoid with
        | false => exact ⟨_, .inside relative written blank⟩
        | true =>
            refine ⟨"", .alone relative written blank ?_⟩
            rintro rfl
            refine named ?_
            rw [names, written, List.filter_cons_of_neg (by simp [isVoid]),
              List.filter_eq_nil_iff]
            simpa using blank

end Parents

end Path

end SnippetSandbox
