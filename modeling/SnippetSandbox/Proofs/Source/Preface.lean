import SnippetSandbox.Proofs.Source.Declaration
import SnippetSandbox.Source.Snippet

/-!
# A comment in front of a text

A block comment that stands in front of a text leaves lines without words, so the type that
the text declares stays the same.  The package is looked for in all lines, those of comments
as well: it stays the same unless a line of the comment reads like a declaration.
-/

namespace SnippetSandbox.Source

open Text

/-- A block comment with these characters in it. -/
def blockComment (body : List Char) : List Char :=
  blockStart ++ body ++ blockEnd

/-! ## The type -/

/-- These characters end a line. -/
def IsLineBreak (ending : List Char) : Prop :=
  ending = ['\n'] ∨ ending = ['\r', '\n']

/-- What a text begins with ends a line or is one character of it. -/
theorem lineBreak_or_character (character : Char) (rest : List Char) :
    (∃ ending following, IsLineBreak ending ∧ character :: rest = ending ++ following) ∨
      character ≠ '\n' ∧ ∀ following, character = '\r' → rest ≠ '\n' :: following := by
  by_cases feed : character = '\n'
  · exact .inl ⟨['\n'], rest, .inl rfl, by rw [feed]; rfl⟩
  · by_cases return_ : character = '\r' ∧ ∃ following, rest = '\n' :: following
    · obtain ⟨rfl, following, rfl⟩ := return_
      exact .inl ⟨['\r', '\n'], following, .inr rfl, rfl⟩
    · exact .inr ⟨feed, fun following isReturn same => return_ ⟨isReturn, following, same⟩⟩

theorem scan_lineBreak {ending : List Char} (breaks : IsLineBreak ending) (region : Region)
    (text : List Char) :
    scan region (ending ++ text) = ⟨[], ending⟩ :: scan region.onNextLine text := by
  rcases breaks with rfl | rfl
  · rw [List.singleton_append, scan]
  · rw [List.cons_append, List.singleton_append, scan]

/-- A character inside a block comment, other than at the end of a line, is passed over. -/
theorem scan_insideCharacter {character : Char} {text : List Char} (noFeed : character ≠ '\n')
    (noReturn : ∀ following, character = '\r' → text ≠ '\n' :: following)
    (noEnd : ∀ following, character = '*' → text ≠ '/' :: following) :
    scan .blockComment (character :: text) = keepFirst [] (scan .blockComment text) := by
  rw [scan]
  · exact noFeed
  · exact noReturn
  · exact noEnd

theorem keepFirst_append (emptied scanned : List ScannedLine) :
    keepFirst [] (emptied ++ keepFirst [] scanned) = emptied ++ keepFirst [] scanned := by
  cases emptied with
  | nil => cases scanned <;> rfl
  | cons line others => rfl

/-- Of the inside of a block comment a scan leaves nothing but the ends of the lines. -/
theorem scan_inside {body : List Char} (inside : ¬ blockEnd <:+: body) (text : List Char) :
    ∃ emptied, (∀ line ∈ emptied, line.kept = []) ∧
      scan .blockComment (body ++ (blockEnd ++ text)) =
        emptied ++ keepFirst [] (scan .code text) := by
  -- The end of a line may take two characters, so the induction is on the length.
  induction length : body.length using Nat.strongRecOn generalizing body with
  | ind length shorter =>
  cases body with
  | nil => exact ⟨[], nofun, rfl⟩
  | cons character rest =>
  rcases lineBreak_or_character character rest with
    ⟨ending, following, breaks, same⟩ | ⟨noFeed, noReturn⟩
  · have lengths := congrArg List.length same
    have positive : 0 < ending.length := by rcases breaks with rfl | rfl <;> decide
    rw [same] at inside ⊢
    obtain ⟨emptied, areEmpty, scanned⟩ := shorter following.length
      (by rw [List.length_append] at lengths; omega)
      (fun ends => inside (ends.trans (List.suffix_append ..).isInfix)) rfl
    refine ⟨⟨[], ending⟩ :: emptied, List.forall_mem_cons.mpr ⟨rfl, areEmpty⟩, ?_⟩
    rw [List.append_assoc, scan_lineBreak breaks, Region.onNextLine, scanned, List.cons_append]
  · obtain ⟨emptied, areEmpty, scanned⟩ := shorter rest.length
      (by rw [← length]; simp) (fun ends => inside (List.infix_cons ends)) rfl
    refine ⟨emptied, areEmpty, ?_⟩
    rw [List.cons_append, scan_insideCharacter noFeed, scanned, keepFirst_append]
    · intro following isReturn
      cases rest with
      | nil => exact fun same => absurd (List.cons.inj same).1 (by decide)
      | cons next rest =>
          rintro same
          exact noReturn rest isReturn (by rw [(List.cons.inj same).1])
    · rintro following rfl
      cases rest with
      | nil => exact fun same => absurd (List.cons.inj same).1 (by decide)
      | cons next rest =>
          rintro same
          refine inside (List.IsPrefix.isInfix ⟨rest, ?_⟩)
          rw [(List.cons.inj same).1]
          rfl

theorem stripLines_blockComment {body ending : List Char} (inside : ¬ blockEnd <:+: body)
    (breaks : IsLineBreak ending) (text : List Char) :
    ∃ emptied, (∀ line ∈ emptied, words line = []) ∧
      stripLines false (lines (blockComment body ++ (ending ++ text))) =
        emptied ++ stripLines false (lines text) := by
  obtain ⟨emptied, areEmpty, scanned⟩ := scan_inside inside (ending ++ text)
  have last : keepFirst [] (scan .code (ending ++ text)) = [⟨[], ending⟩] ++ scan .code text := by
    rw [scan_lineBreak breaks]
    rfl
  have whole : scan .code (blockComment body ++ (ending ++ text)) =
      keepFirst [' '] (emptied ++ [⟨[], ending⟩] ++ scan .code text) := by
    rw [List.append_assoc emptied, ← last, ← scanned, blockComment, List.append_assoc,
      List.append_assoc]
    rfl
  have left (text : List Char) : stripLines false (lines text) =
      (scan .code text).map ScannedLine.kept := (map_kept_scan .code text).symm
  have noWords : words [] = [] ∧ words [' '] = [] := by simp [words, isBlank]; decide
  rw [left, left, whole, map_kept_keepFirst, List.map_append]
  cases emptied with
  | nil => exact ⟨[[' ']], by simpa using noWords.2, rfl⟩
  | cons line emptied =>
      obtain ⟨isEmpty, areEmpty⟩ := List.forall_mem_cons.mp areEmpty
      refine ⟨[' '] :: (emptied ++ [(⟨[], ending⟩ : ScannedLine)]).map ScannedLine.kept,
        ?_, ?_⟩
      · refine List.forall_mem_cons.mpr ⟨noWords.2, fun other isMember => ?_⟩
        obtain ⟨scannedLine, isScanned, rfl⟩ := List.mem_map.mp isMember
        rcases List.mem_append.mp isScanned with isEmptied | isLast
        · rw [areEmpty scannedLine isEmptied]
          exact noWords.1
        · rw [List.mem_singleton.mp isLast]
          exact noWords.1
      · simp [onFirstLine, isEmpty]

/-- The type that a text declares is the same behind a block comment. -/
theorem typeNameOf_blockComment {body ending : List Char} (inside : ¬ blockEnd <:+: body)
    (breaks : IsLineBreak ending) (text : List Char) :
    typeNameOf (String.ofList (blockComment body ++ (ending ++ text))) =
      typeNameOf (String.ofList text) := by
  obtain ⟨emptied, noWords, left⟩ := stripLines_blockComment inside breaks text
  rw [typeNameOf, typeNameOf, String.toList_ofList, String.toList_ofList, left,
    typeNameOfLines_append]
  intro line isMember word isWord
  rw [noWords line isMember] at isWord
  cases isWord

/-! ## The package -/

/-- What the first line that declares a package says, if there is one. -/
def declaredPackage? : List (List Char) → Option (Except NamingProblem (List Char))
  | [] => none
  | line :: others =>
      match after? packageWord (trim line) with
      | some declared => some (declaredPackage (trim line) declared)
      | none => declaredPackage? others

theorem packageOfLines_append (front back : List (List Char)) :
    packageOfLines (front ++ back) = (declaredPackage? front).getD (packageOfLines back) := by
  induction front with
  | nil => rfl
  | cons line front ih =>
      rw [List.cons_append, packageOfLines, declaredPackage?]
      cases after? packageWord (trim line) with
      | none => exact ih
      | some declared => rfl

theorem declaredPackage?_eq_none {sourceLines : List (List Char)} :
    declaredPackage? sourceLines = none ↔
      ∀ line ∈ sourceLines, ¬ packageWord <+: trim line := by
  induction sourceLines with
  | nil => simp [declaredPackage?]
  | cons line others ih =>
      rw [declaredPackage?, List.forall_mem_cons, ← ih, after?]
      by_cases declares : packageWord <+: trim line
      · simp [declares]
      · simp [declares]

theorem onFirstLine_append {front : List Char} {first : List (List Char)} (isLine : first ≠ [])
    (others : List (List Char)) :
    onFirstLine front (first ++ others) = onFirstLine front first ++ others := by
  cases first with
  | nil => exact absurd rfl isLine
  | cons line more => rfl

theorem lines_ne_nil {text : List Char} (hasText : text ≠ []) : lines text ≠ [] := by
  fun_cases lines text with
  | case1 => exact absurd rfl hasText
  | case2 | case3 | case4 | case5 => exact List.cons_ne_nil _ _

theorem lines_feed_append (text more : List Char) :
    lines (text ++ '\n' :: more) = lines (text ++ ['\n']) ++ lines more := by
  induction length : text.length using Nat.strongRecOn generalizing text with
  | ind length shorter =>
  cases text with
  | nil => exact lines_feed more
  | cons character rest =>
  have goesOn : lines (rest ++ '\n' :: more) = lines (rest ++ ['\n']) ++ lines more :=
    shorter rest.length (by rw [← length]; simp) rest rfl
  rcases lineBreak_or_character character (rest ++ ['\n']) with
    ⟨ending, following, rfl | rfl, same⟩ | ⟨noFeed, noReturn⟩
  · obtain ⟨rfl, rfl⟩ := List.cons.inj same
    rw [List.cons_append, List.cons_append, lines_feed, lines_feed, goesOn, List.cons_append]
  · obtain ⟨rfl, sameRest⟩ := List.cons.inj same
    cases rest with
    | nil => rw [List.cons_append, List.nil_append, lines_return]; rfl
    | cons next rest =>
        obtain ⟨rfl, -⟩ := List.cons.inj sameRest
        rw [List.cons_append, List.cons_append, lines_return, List.cons_append, List.cons_append,
          lines_return, shorter rest.length (by rw [← length, List.length_cons, List.length_cons]; omega) rest rfl, List.cons_append]
  · have noReturn : ∀ following, character = '\r' → rest ++ '\n' :: more ≠ '\n' :: following := by
      intro following isReturn same
      cases rest with
      | nil => exact noReturn [] isReturn rfl
      | cons next rest =>
          exact noReturn (rest ++ ['\n']) isReturn (by rw [(List.cons.inj same).1]; rfl)
    rw [List.cons_append, lines_cons noFeed noReturn, goesOn, List.cons_append,
      lines_cons noFeed, onFirstLine_append]
    · exact lines_ne_nil (by simp)
    · assumption

/-- The end of a line is where the lines of a text part. -/
theorem lines_append {ending : List Char} (breaks : IsLineBreak ending) (text more : List Char) :
    lines (text ++ (ending ++ more)) = lines (text ++ ending) ++ lines more := by
  rcases breaks with rfl | rfl
  · exact lines_feed_append text more
  · simpa using lines_feed_append (text ++ ['\r']) more

/-- The package that a text declares behind a block comment is what the comment's lines say,
and what the text says only if they say nothing. -/
theorem packageOf_blockComment {ending : List Char} (breaks : IsLineBreak ending)
    (body text : List Char) :
    packageOf (String.ofList (blockComment body ++ (ending ++ text))) =
      match declaredPackage? (lines (blockComment body ++ ending)) with
      | some found => found.map String.ofList
      | none => packageOf (String.ofList text) := by
  rw [packageOf, packageOf, String.toList_ofList, String.toList_ofList, lines_append breaks,
    packageOfLines_append]
  cases declaredPackage? (lines (blockComment body ++ ending)) <;> rfl

/-! ## The name and the file -/

/-- How a comment in front of a text tells on the names found in it. -/
structure IsNamedBehind (text commented : String) (sourceLines : List (List Char)) : Prop where
  /-- The type is the one that the text declares, or there is none for the same reason. -/
  type : typeNameOf commented = typeNameOf text
  /-- The package is what the comment's lines say, as far as they say anything. -/
  package : packageOf commented =
    match declaredPackage? sourceLines with
    | some found => found.map String.ofList
    | none => packageOf text
  /-- When they say nothing, the snippet has the same names and belongs in the same file. -/
  snippet : (∀ line ∈ sourceLines, ¬ packageWord <+: trim line) →
    ∀ sourceDir detector, Snippet.ofText sourceDir detector commented =
      (Snippet.ofText sourceDir detector text).map fun snippet =>
        { snippet with text := commented, isEntry := detector commented }

/-- A block comment in front of a text never changes the type, and changes the package, and
with it the full name and the file, only through a line of its own that begins like the
declaration of a package. -/
theorem isNamedBehind_blockComment {body ending : List Char} (inside : ¬ blockEnd <:+: body)
    (breaks : IsLineBreak ending) (text : List Char) :
    IsNamedBehind (String.ofList text) (String.ofList (blockComment body ++ (ending ++ text)))
      (lines (blockComment body ++ ending)) where
  type := typeNameOf_blockComment inside breaks text
  package := packageOf_blockComment breaks body text
  snippet silent sourceDir detector := by
    have package := packageOf_blockComment breaks body text
    rw [declaredPackage?_eq_none.mpr silent] at package
    rw [Snippet.ofText, Snippet.ofText, package, typeNameOf_blockComment inside breaks text]
    cases packageOf (String.ofList text) with
    | error problem => rfl
    | ok package => cases typeNameOf (String.ofList text) <;> rfl

/-- A comment over two lines, the second of which names a package. -/
def decoy : List Char := "\npackage decoy;\n".toList

/-- A class in the default package. -/
def unpackaged : List Char := "class A {}".toList

theorem inside_decoy : ¬ blockEnd <:+: decoy := fun ends =>
  absurd (ends.subset (List.mem_cons_self ..)) (by decide : '*' ∉ decoy)

/-- Behind a comment that names a package, a class keeps its name and gets that package. -/
theorem isNamedBehind_decoy :
    (¬ blockEnd <:+: decoy ∧ IsLineBreak ['\n']) ∧
      IsNamedBehind (String.ofList unpackaged)
        (String.ofList (blockComment decoy ++ (['\n'] ++ unpackaged)))
        (lines (blockComment decoy ++ ['\n'])) :=
  ⟨⟨inside_decoy, .inl rfl⟩, isNamedBehind_blockComment inside_decoy (.inl rfl) unpackaged⟩

/-- A comment may change the package that a text declares. -/
theorem not_packageOf_blockComment :
    ¬ ∀ body ending text : List Char, ¬ blockEnd <:+: body → IsLineBreak ending →
      packageOf (String.ofList (blockComment body ++ (ending ++ text))) =
        packageOf (String.ofList text) := by
  intro same
  have decoyed := same decoy ['\n'] unpackaged inside_decoy (.inl rfl)
  have named : packageOfLines (lines (blockComment decoy ++ (['\n'] ++ unpackaged))) =
      .ok "decoy".toList := by decide
  have unnamed : packageOfLines (lines unpackaged) = .ok [] := by decide
  rw [packageOf, String.toList_ofList, packageOf, String.toList_ofList, named, unnamed] at decoyed
  exact absurd (String.ofList_injective (Except.ok.inj decoyed)) (by decide)

end SnippetSandbox.Source
