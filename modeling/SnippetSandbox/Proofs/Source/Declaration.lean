import SnippetSandbox.Proofs.Source.Comment

/-!
# The type that a text declares

The simple name of a text is the name behind the first type keyword that is outside of
comments.  It does not depend on the blanks around a line or on what comments say.
-/

namespace SnippetSandbox.Source

open Text

/-! ## Words -/

section Blanks

variable {blanks : List Char} (areBlank : ∀ character ∈ blanks, isBlank character = true)

include areBlank

theorem words_blank : words blanks = [] := by
  induction blanks with
  | nil => rw [words]
  | cons character rest ih =>
      rw [words, if_pos (areBlank character List.mem_cons_self)]
      exact ih fun other isLater => areBlank other (List.mem_cons_of_mem _ isLater)

theorem span_append_blank (text : List Char) :
    ((text ++ blanks).takeWhile fun next => !isBlank next) =
        (text.takeWhile fun next => !isBlank next) ∧
      ((text ++ blanks).dropWhile fun next => !isBlank next) =
        (text.dropWhile fun next => !isBlank next) ++ blanks := by
  induction text with
  | nil =>
      cases blanks with
      | nil => exact ⟨rfl, rfl⟩
      | cons character rest =>
          have isBlank := areBlank character List.mem_cons_self
          simp [isBlank]
  | cons character text ih =>
      rw [List.cons_append, List.takeWhile_cons, List.takeWhile_cons, List.dropWhile_cons,
        List.dropWhile_cons]
      split
      next => exact ⟨congrArg (character :: ·) ih.1, ih.2⟩
      next => exact ⟨rfl, rfl⟩

theorem words_append_blank (text : List Char) : words (text ++ blanks) = words text := by
  fun_induction words text with
  | case1 => exact words_blank areBlank
  | case2 character rest isBlank ih =>
      rw [List.cons_append, words, if_pos isBlank]
      exact ih
  | case3 character rest noBlank ih =>
      obtain ⟨taken, dropped⟩ := span_append_blank areBlank rest
      rw [List.cons_append, words, if_neg noBlank, taken, dropped, ih]

end Blanks

theorem words_trimStart (text : List Char) : words (trimStart text) = words text := by
  induction text with
  | nil => rfl
  | cons character rest ih =>
      rw [trimStart, List.dropWhile_cons]
      split
      next isBlank =>
        rw [words, if_pos isBlank]
        exact ih
      next => rfl

theorem words_trim (text : List Char) : words (trim text) = words text := by
  have split := List.takeWhile_append_dropWhile (p := isBlank) (l := (trimStart text).reverse)
  have whole := congrArg List.reverse split
  rw [List.reverse_append, List.reverse_reverse] at whole
  rw [← words_trimStart text, ← whole, trim, ← trimStart]
  refine (words_append_blank ?_ _).symm
  intro character isMember
  exact List.all_eq_true.mp List.all_takeWhile character (List.mem_reverse.mp isMember)

/-! ## Keywords -/

/-- Among some words the first type keyword has these in front of it and these behind it. -/
structure IsFirstKeyword (lineWords before : List (List Char)) (keyword : List Char)
    (behind : List (List Char)) : Prop where
  here : lineWords = before ++ keyword :: behind
  isFirst : ∀ word ∈ before, word ∉ typeKeywords
  isKeyword : keyword ∈ typeKeywords

/-- Among the words of several lines the first type keyword is on this one. -/
structure IsFirstDeclared (code : List (List Char)) (line : List Char)
    (before : List (List Char)) (keyword : List Char) (behind : List (List Char)) : Prop where
  here : ∃ front back, code = front ++ line :: back ∧
    ∀ other ∈ front, ∀ word ∈ words other, word ∉ typeKeywords
  onLine : IsFirstKeyword (words line) before keyword behind

theorem declaredType?_of_first {line : List Char} {lineWords before behind : List (List Char)}
    {keyword : List Char} (first : IsFirstKeyword lineWords before keyword behind) :
    declaredType? line lineWords = some (if isName ((behind.headD []).takeWhile isNamePart) then
      .ok ((behind.headD []).takeWhile isNamePart)
    else .error (.missingTypeName (String.ofList keyword) (String.ofList line))) := by
  obtain ⟨rfl, isFirst, isKeyword⟩ := first
  induction before with
  | nil => rw [List.nil_append, declaredType?, if_pos isKeyword]
  | cons word before ih =>
      rw [List.cons_append, declaredType?, if_neg (isFirst word List.mem_cons_self)]
      exact ih fun other isLater => isFirst other (List.mem_cons_of_mem _ isLater)

theorem declaredType?_of_none {line : List Char} {lineWords : List (List Char)}
    (noKeyword : ∀ word ∈ lineWords, word ∉ typeKeywords) :
    declaredType? line lineWords = none := by
  induction lineWords with
  | nil => rfl
  | cons word others ih =>
      rw [declaredType?, if_neg (noKeyword word List.mem_cons_self)]
      exact ih fun other isLater => noKeyword other (List.mem_cons_of_mem _ isLater)

theorem exists_isFirstKeyword (lineWords : List (List Char)) :
    (∀ word ∈ lineWords, word ∉ typeKeywords) ∨
      ∃ before keyword behind, IsFirstKeyword lineWords before keyword behind := by
  induction lineWords with
  | nil => exact .inl nofun
  | cons word others ih =>
      by_cases here : word ∈ typeKeywords
      · exact .inr ⟨[], word, others, rfl, nofun, here⟩
      · rcases ih with noKeyword | ⟨before, keyword, behind, rfl, isFirst, isKeyword⟩
        · exact .inl (by simpa [here] using noKeyword)
        · exact .inr ⟨word :: before, keyword, behind, rfl, by simpa [here] using isFirst,
            isKeyword⟩

/-- The lines have no type keyword, or one of the keywords is the first. -/
theorem exists_isFirstDeclared (code : List (List Char)) :
    (∀ line ∈ code, ∀ word ∈ words line, word ∉ typeKeywords) ∨
      ∃ line before keyword behind, IsFirstDeclared code line before keyword behind := by
  induction code with
  | nil => exact .inl nofun
  | cons line others ih =>
      rcases exists_isFirstKeyword (words line) with noKeyword | ⟨before, keyword, behind, first⟩
      · rcases ih with noneLater | ⟨later, before, keyword, behind, here, onLine⟩
        · exact .inl (List.forall_mem_cons.mpr ⟨noKeyword, noneLater⟩)
        · obtain ⟨front, back, rfl, noneInFront⟩ := here
          exact .inr ⟨later, before, keyword, behind,
            ⟨line :: front, back, rfl, List.forall_mem_cons.mpr ⟨noKeyword, noneInFront⟩⟩, onLine⟩
      · exact .inr ⟨line, before, keyword, behind, ⟨[], others, rfl, nofun⟩, first⟩

theorem typeNameOfLines_append {front back : List (List Char)}
    (noKeyword : ∀ line ∈ front, ∀ word ∈ words line, word ∉ typeKeywords) :
    typeNameOfLines (front ++ back) = typeNameOfLines back := by
  induction front with
  | nil => rfl
  | cons line front ih =>
      obtain ⟨notHere, noneLater⟩ := List.forall_mem_cons.mp noKeyword
      rw [List.cons_append, typeNameOfLines, words_trim, declaredType?_of_none notHere]
      exact ih noneLater

theorem typeNameOfLines_of_none {code : List (List Char)}
    (noKeyword : ∀ line ∈ code, ∀ word ∈ words line, word ∉ typeKeywords) :
    typeNameOfLines code = .error .noTypeDeclared := by
  rw [← List.append_nil code, typeNameOfLines_append noKeyword]
  rfl

theorem typeNameOfLines_of_first {code before behind : List (List Char)}
    {line keyword : List Char} (first : IsFirstDeclared code line before keyword behind) :
    typeNameOfLines code = if isName ((behind.headD []).takeWhile isNamePart) then
        .ok ((behind.headD []).takeWhile isNamePart)
      else .error (.missingTypeName (String.ofList keyword) (String.ofList (trim line))) := by
  obtain ⟨⟨front, back, rfl, noneInFront⟩, onLine⟩ := first
  rw [typeNameOfLines_append noneInFront, typeNameOfLines, words_trim,
    declaredType?_of_first onLine]

/-- The first type keyword is followed on its line by a word that begins with this name. -/
def DeclaresType (code : List (List Char)) (name : List Char) : Prop :=
  ∃ line before keyword follower behind,
    IsFirstDeclared code line before keyword (follower :: behind) ∧
      follower.takeWhile isNamePart = name ∧ isName name = true

theorem typeNameOfLines_iff {code : List (List Char)} {name : List Char} :
    typeNameOfLines code = .ok name ↔ DeclaresType code name := by
  constructor
  · intro found
    rcases exists_isFirstDeclared code with noKeyword | ⟨line, before, keyword, behind, first⟩
    · rw [typeNameOfLines_of_none noKeyword] at found
      cases found
    · rw [typeNameOfLines_of_first first] at found
      split at found
      next named =>
        cases found
        cases behind with
        | nil => cases named
        | cons follower behind => exact ⟨line, before, keyword, follower, behind, first, rfl, named⟩
      next => cases found
  · rintro ⟨line, before, keyword, follower, behind, first, rfl, named⟩
    rw [typeNameOfLines_of_first first]
    exact if_pos named

theorem typeNameOfLines_error {code : List (List Char)}
    (noName : ∀ name, ¬ DeclaresType code name) :
    typeNameOfLines code = .error .noTypeDeclared ∨
      ∃ keyword line, typeNameOfLines code = .error (.missingTypeName keyword line) := by
  rcases exists_isFirstDeclared code with noKeyword | ⟨line, before, keyword, behind, first⟩
  · exact .inl (typeNameOfLines_of_none noKeyword)
  · have found := typeNameOfLines_of_first first
    split at found
    next => exact absurd (typeNameOfLines_iff.mp found) (noName _)
    next => exact .inr ⟨_, _, found⟩

/-- What removing comments from a text line by line comes to. -/
structure IsScanned (text : String) : Prop where
  /-- The lines that are left are those that one scan over the whole text leaves. -/
  same : stripLines false (lines text.toList) =
    (scan .code text.toList).map ScannedLine.kept
  /-- The scan has left the ends of the lines as they are in the text. -/
  ends : joinLines (lines text.toList) ((scan .code text.toList).map ScannedLine.ending) =
    text.toList
  endings : ∀ line ∈ scan .code text.toList,
    line.ending = ['\n'] ∨ line.ending = ['\r', '\n'] ∨ line.ending = []
  /-- Each line has been put together from slices of it that begin and end on the border of a
  character, with a space between two, and there are no more of them than characters and one. -/
  sliced : ∀ line ∈ lines text.toList, ∀ inComment, ∃ pieces,
    (stripComments inComment line).1 = [' '].intercalate pieces ∧
      List.Forall₂ (IsSlice (String.ofList line)) pieces (slices inComment 0 line) ∧
      pieces.length ≤ line.length + 1
  /-- No mark that begins a comment is left. -/
  plain : ∀ line ∈ stripLines false (lines text.toList),
    ¬ lineStart <:+: line ∧ ¬ blockStart <:+: line
  once : stripLines false (stripLines false (lines text.toList)) =
    stripLines false (lines text.toList)
  /-- The simple name is the one behind the first type keyword in the code that is left. -/
  named : ∀ name, typeNameOf text = .ok name ↔
    DeclaresType (stripLines false (lines text.toList)) name.toList
  unnamed : (∀ name, ¬ DeclaresType (stripLines false (lines text.toList)) name) →
    typeNameOf text = .error .noTypeDeclared ∨
      ∃ keyword line, typeNameOf text = .error (.missingTypeName keyword line)

/-- Whatever is in a text, its comments are removed as by one scan over all of it, once and
for all, and the simple name is found in the code that is left. -/
theorem stripLines_isScanned (text : String) : IsScanned text where
  same := (map_kept_scan .code text.toList).symm
  ends := joinLines_scan .code text.toList
  endings _ := ending_scan
  sliced line _ inComment := by
    obtain ⟨pieces, same, areSlices⟩ := isSlice_slices inComment [] line
    refine ⟨pieces, same, areSlices, ?_⟩
    rw [areSlices.length_eq]
    exact length_slices_le inComment 0 line
  plain _ := isPlain_of_mem_stripLines
  once := stripLines_of_isPlain fun _ => isPlain_of_mem_stripLines
  named name := by
    rw [typeNameOf, ← typeNameOfLines_iff]
    cases typeNameOfLines (stripLines false (lines text.toList)) with
    | error problem => exact ⟨nofun, nofun⟩
    | ok found =>
        simp only [Except.map, Except.ok.injEq]
        rw [← String.toList_inj, String.toList_ofList]
  unnamed noName := by
    rw [typeNameOf]
    rcases typeNameOfLines_error noName with noKeyword | ⟨keyword, line, noName⟩
    · exact .inl (by rw [noKeyword]; rfl)
    · exact .inr ⟨keyword, line, by rw [noName]; rfl⟩

end SnippetSandbox.Source
