import Mathlib
import SnippetSandbox.Proofs.FileSystem.Change
import SnippetSandbox.Source.Snippet

/-!
# Names of snippets

Whatever a text contains, the parts of the package and the simple name that are found
in it are names.  No character of a name has a meaning in a path, so the file of a
snippet lies below the source directory, and each qualified name has a file of its own.
-/

namespace SnippetSandbox

open FileSystem Source

namespace Source

/-- No character with a meaning in paths, dotted names or options can be in a name. -/
theorem ne_of_isNamePart {character : Char} (isPart : isNamePart character = true) :
    character ≠ '/' ∧ character ≠ '\x00' ∧ character ≠ '.' ∧ character ≠ '-' ∧
      character ≠ '@' := by
  refine ⟨?_, ?_, ?_, ?_, ?_⟩ <;>
  · rintro rfl
    exact absurd isPart (by decide)

theorem isNamePart_of_isNameStart {character : Char} (isStart : isNameStart character = true) :
    isNamePart character = true := by
  simp only [isNameStart, isNamePart, Text.isLetterOrNumeral, Bool.or_eq_true] at isStart ⊢
  rcases isStart with (letter | line) | dollar
  · exact .inl (.inl (.inl letter))
  · exact .inl (.inr line)
  · exact .inr dollar

theorem isNamePart_of_isName {name : List Char} (named : isName name = true) {character : Char}
    (isMember : character ∈ name) : isNamePart character = true := by
  cases name with
  | nil => cases isMember
  | cons first rest =>
      simp only [isName, Bool.and_eq_true, List.all_eq_true] at named
      rcases List.mem_cons.mp isMember with rfl | isMember
      · exact isNamePart_of_isNameStart named.1
      · exact named.2 character isMember

/-- A name without a dot, a slash or anything else that is special. -/
theorem not_mem_of_isName {name : List Char} (named : isName name = true) :
    '/' ∉ name ∧ '\x00' ∉ name ∧ '.' ∉ name ∧ '-' ∉ name ∧ '@' ∉ name := by
  have parts {character : Char} (isMember : character ∈ name) :
      isNamePart character = true :=
    isNamePart_of_isName named isMember
  refine ⟨?_, ?_, ?_, ?_, ?_⟩ <;>
  · intro isMember
    simpa using ne_of_isNamePart (parts isMember)

theorem ne_nil_of_isName {name : List Char} (named : isName name = true) : name ≠ [] := by
  rintro rfl
  cases named

theorem isName_of_declaredPackage {line declared package : List Char}
    (found : declaredPackage line declared = .ok package) :
    ∀ part ∈ Text.splitOn '.' package, isName part = true := by
  rw [declaredPackage] at found
  split at found
  next => cases found
  next =>
    dsimp only at found
    split at found
    next named =>
      cases found
      exact List.all_eq_true.mp named
    next => cases found

theorem isName_of_packageOfLines {sourceLines : List (List Char)} {package : List Char}
    (found : packageOfLines sourceLines = .ok package) :
    package = [] ∨ ∀ part ∈ Text.splitOn '.' package, isName part = true := by
  induction sourceLines with
  | nil =>
      cases found
      exact .inl rfl
  | cons line others ih =>
      rw [packageOfLines] at found
      split at found
      next => exact .inr (isName_of_declaredPackage found)
      next => exact ih found

theorem isName_of_declaredType? {line name : List Char} {lineWords : List (List Char)}
    (found : declaredType? line lineWords = some (.ok name)) : isName name = true := by
  induction lineWords with
  | nil => cases found
  | cons word others ih =>
      rw [declaredType?] at found
      split at found
      next =>
        dsimp only at found
        split at found
        next named =>
          cases found
          exact named
        next => cases found
      next => exact ih found

theorem isName_of_typeNameOfLines {sourceLines : List (List Char)} {name : List Char}
    (found : typeNameOfLines sourceLines = .ok name) : isName name = true := by
  induction sourceLines with
  | nil => cases found
  | cons line others ih =>
      rw [typeNameOfLines] at found
      split at found
      next declared => exact isName_of_declaredType? (found ▸ declared)
      next => exact ih found

theorem isName_of_typeNameOf {text name : String} (found : typeNameOf text = .ok name) :
    isName name.toList = true := by
  rw [typeNameOf] at found
  cases written : typeNameOfLines (stripLines false (Text.lines text.toList)) with
  | error problem => rw [written] at found; cases found
  | ok letters =>
      rw [written] at found
      cases found
      simpa using isName_of_typeNameOfLines written

/-- Between its dots a qualified name has the parts of the package, then the simple name. -/
theorem parts_qualifiedName {package simpleName : String}
    (named : isName simpleName.toList = true) :
    Snippet.packageSegments (qualifiedName package simpleName) =
      Snippet.packageSegments package ++ [simpleName] := by
  have noDot : '.' ∉ simpleName.toList := (not_mem_of_isName named).2.2.1
  have some : simpleName ≠ "" := by
    rintro rfl
    cases named
  have single : (Text.splitOn '.' simpleName.toList).map String.ofList = [simpleName] := by
    rw [Text.splitOn_eq, List.splitOn_eq_singleton noDot]
    simp
  rw [qualifiedName]
  by_cases empty : package = ""
  · rw [if_pos empty, empty, Snippet.packageSegments, Snippet.packageSegments, single]
    simp [Text.splitOn, some]
  · have split := List.splitOn_append_cons_self (a := '.') package.toList simpleName.toList
    rw [← Text.splitOn_eq, ← Text.splitOn_eq, ← Text.splitOn_eq] at split
    rw [if_neg empty, Snippet.packageSegments, Snippet.packageSegments, String.toList_append,
      String.toList_append, List.append_assoc]
    rw [show ".".toList ++ simpleName.toList = '.' :: simpleName.toList from rfl, split,
      List.map_append, List.filter_append, single]
    simp [some]

end Source

namespace Snippet

/-- The file that a type is in, within the directory of its package. -/
def fileName (simpleName : String) : String :=
  simpleName ++ ".java"

/-- The names that lead from the source directory to a snippet's file. -/
def way (snippet : Snippet) : List String :=
  packageSegments snippet.package ++ [fileName snippet.simpleName]

/-- The package and the simple name consist of names, and the file is the one that
belongs to them. -/
structure IsNamed (sourceDir : String) (snippet : Snippet) : Prop where
  parts : ∀ part ∈ packageSegments snippet.package, isName part.toList = true
  joined : ".".intercalate (packageSegments snippet.package) = snippet.package
  simple : isName snippet.simpleName.toList = true
  path : snippet.path = file sourceDir snippet.package snippet.simpleName

/-- The parts of a package that is given by names are these names. -/
theorem packageSegments_eq {package : String}
    (named : ∀ part ∈ Text.splitOn '.' package.toList, isName part = true) :
    packageSegments package = (Text.splitOn '.' package.toList).map String.ofList := by
  rw [packageSegments, List.filter_eq_self]
  intro part isPart
  obtain ⟨letters, isMember, rfl⟩ := List.mem_map.mp isPart
  simpa using ne_nil_of_isName (named letters isMember)

theorem parts_of_packageOf {text package : String} (found : packageOf text = .ok package) :
    (∀ part ∈ packageSegments package, isName part.toList = true) ∧
      ".".intercalate (packageSegments package) = package := by
  rw [packageOf] at found
  cases written : packageOfLines (Text.lines text.toList) with
  | error problem => rw [written] at found; cases found
  | ok letters =>
      rw [written] at found
      cases found
      rcases isName_of_packageOfLines written with rfl | named
      · exact ⟨by simp [packageSegments, Text.splitOn], by simp [packageSegments, Text.splitOn]⟩
      · rw [packageSegments_eq (by simpa using named)]
        refine ⟨by simpa using named, ?_⟩
        rw [← String.toList_inj, String.toList_intercalate, List.map_map, Text.splitOn_eq]
        simp [Function.comp_def]

theorem ofText_done {sourceDir text : String} {detector : Detector} {snippet : Snippet}
    (named : ofText sourceDir detector text = .ok snippet) :
    snippet.text = text ∧ snippet.isEntry = detector text ∧ snippet.IsNamed sourceDir := by
  rw [ofText] at named
  split at named
  next => cases named
  next package inPackage =>
    split at named
    next => cases named
    next simpleName declared =>
      cases named
      obtain ⟨parts, joined⟩ := parts_of_packageOf inPackage
      exact ⟨rfl, rfl, parts, joined, isName_of_typeNameOf declared, rfl⟩

theorem ofText_of_ok {sourceDir text package simpleName : String} {detector : Detector}
    (inPackage : packageOf text = .ok package) (declared : typeNameOf text = .ok simpleName) :
    ofText sourceDir detector text = .ok ⟨text, package, simpleName, detector text,
      file sourceDir package simpleName⟩ := by
  rw [ofText, inPackage]
  dsimp only
  rw [declared]

/-- A written snippet was named first, then its directory was made, then its file. -/
theorem write_done {sourceDir text : String} {detector : Detector} {snippet : Snippet}
    {before after : Disk} (written : write sourceDir detector text before = (.ok snippet, after)) :
    ofText sourceDir detector text = .ok snippet ∧ ∃ between,
      makeDirectories (directory sourceDir snippet.package) before = (.ok (), between) ∧
      writeText snippet.path snippet.text between = (.ok (), after) := by
  rw [write] at written
  cases named : ofText sourceDir detector text with
  | error problem => rw [named] at written; cases written
  | ok found =>
      rw [named] at written
      obtain ⟨_, between, made, written⟩ := Effect.bind_ok written
      obtain ⟨_, _, stored, finished⟩ := Effect.bind_ok written
      cases finished
      exact ⟨rfl, between, reportedFor_ok made, reportedFor_ok stored⟩

/-- A text that has its names is written when the directory and the file can be. -/
theorem write_of_ok {sourceDir text : String} {detector : Detector} {snippet : Snippet}
    {before between after : Disk} (named : ofText sourceDir detector text = .ok snippet)
    (made : makeDirectories (directory sourceDir snippet.package) before = (.ok (), between))
    (written : writeText snippet.path snippet.text between = (.ok (), after)) :
    write sourceDir detector text before = (.ok snippet, after) := by
  rw [write, named]
  refine (Effect.bind_of_ok (reportedFor_of_ok made)).trans ?_
  exact (Effect.bind_of_ok (reportedFor_of_ok written)).trans rfl

/-- Writing a snippet makes directories and changes at most one file, even when it fails. -/
theorem builds_write (sourceDir : String) (detector : Detector) (text : String) :
    Effect.Relates Disk.Builds (write sourceDir detector text) := by
  rw [write]
  cases ofText sourceDir detector text with
  | error problem => exact .refl
  | ok snippet =>
      refine .bind .trans (relates_reportedFor (.makeDirectories _) _) fun _ => ?_
      exact .bind .trans (relates_reportedFor (.writeText _ _) _) fun _ => .refl

namespace IsNamed

variable {sourceDir : String} {snippet other : Snippet}

/-- On the way to the file are the parts of the package and the file. -/
theorem mem_way (named : snippet.IsNamed sourceDir) {name : String} (onWay : name ∈ snippet.way) :
    ∃ part ending, isName part.toList = true ∧ (ending = "" ∨ ending = ".java") ∧
      name = part ++ ending := by
  rcases List.mem_append.mp onWay with isPart | isFile
  · exact ⟨name, "", named.parts name isPart, .inl rfl, by simp⟩
  · exact ⟨snippet.simpleName, ".java", named.simple, .inr rfl, List.mem_singleton.mp isFile⟩

/-- Nothing on the way to the file can be taken for anything but a name. -/
theorem ne_of_mem_way (named : snippet.IsNamed sourceDir) {name : String}
    (onWay : name ∈ snippet.way) :
    name ≠ "" ∧ name ≠ "." ∧ name ≠ ".." ∧ '/' ∉ name.toList ∧ '\x00' ∉ name.toList ∧
      name.toList.head? ≠ some '-' ∧ name.toList.head? ≠ some '@' := by
  obtain ⟨part, ending, isPart, endings, rfl⟩ := named.mem_way onWay
  obtain ⟨noSlash, noNul, noDot, noDash, noAt⟩ := not_mem_of_isName isPart
  have some : part.toList ≠ [] := ne_nil_of_isName isPart
  have starts : (part ++ ending).toList.head? = part.toList.head? := by
    rw [String.toList_append, List.head?_append, List.head?_eq_some_head some, Option.some_or]
  have startsUnlike {character : Char} (absent : character ∉ part.toList) :
      (part ++ ending).toList.head? ≠ Option.some character :=
    fun same => absent (List.mem_of_head? (starts ▸ same))
  have notDots {dots : String} (isDots : dots.toList.head? = Option.some '.') :
      part ++ ending ≠ dots :=
    fun same => startsUnlike noDot (same ▸ isDots)
  refine ⟨?_, notDots rfl, notDots rfl, ?_, ?_, startsUnlike noDash, startsUnlike noAt⟩
  · intro empty
    simp [String.append_eq_empty_iff.mp empty] at some
  · rcases endings with rfl | rfl <;> simpa using noSlash
  · rcases endings with rfl | rfl <;> simpa using noNul

theorem isProper (named : snippet.IsNamed sourceDir) {name : String} (onWay : name ∈ snippet.way) :
    Path.IsProper name := by
  obtain ⟨some, notDot, notUp, noSlash, -⟩ := named.ne_of_mem_way onWay
  exact ⟨noSlash, by simp [Path.isVoid, some, notDot], notUp⟩

/-- The file is at the end of its way from the source directory. -/
theorem path_eq_joinAll (named : snippet.IsNamed sourceDir) :
    snippet.path = Path.joinAll sourceDir snippet.way := by
  rw [named.path, file, directory, way, Path.joinAll, Path.joinAll, List.foldl_append]
  rfl

theorem names_path (named : snippet.IsNamed sourceDir) :
    Path.names snippet.path = Path.names sourceDir ++ snippet.way := by
  rw [named.path_eq_joinAll, Path.names_joinAll fun _ onWay => named.isProper onWay]

/-- Two snippets with the same way are in the same package and have the same simple name. -/
theorem way_inj (named : snippet.IsNamed sourceDir) (otherNamed : other.IsNamed sourceDir)
    (same : snippet.way = other.way) :
    snippet.package = other.package ∧ snippet.simpleName = other.simpleName := by
  obtain ⟨sameParts, sameFile⟩ := List.append_inj' same rfl
  refine ⟨?_, ?_⟩
  · rw [← named.joined, ← otherNamed.joined, sameParts]
  · have letters := congrArg String.toList (List.singleton_inj.mp sameFile)
    rw [fileName, fileName, String.toList_append, String.toList_append] at letters
    exact String.toList_inj.mp (List.append_cancel_right letters)

theorem path_eq_iff (named : snippet.IsNamed sourceDir) (otherNamed : other.IsNamed sourceDir) :
    snippet.path = other.path ↔
      snippet.package = other.package ∧ snippet.simpleName = other.simpleName := by
  constructor
  · intro same
    have sameNames := congrArg Path.names same
    rw [named.names_path, otherNamed.names_path] at sameNames
    exact named.way_inj otherNamed (List.append_cancel_left sameNames)
  · rintro ⟨samePackage, sameName⟩
    rw [named.path, otherNamed.path, samePackage, sameName]

theorem name_eq_iff (named : snippet.IsNamed sourceDir) (otherNamed : other.IsNamed sourceDir) :
    snippet.name = other.name ↔
      snippet.package = other.package ∧ snippet.simpleName = other.simpleName := by
  constructor
  · intro same
    have sameParts := congrArg packageSegments same
    rw [name, name, parts_qualifiedName named.simple, parts_qualifiedName otherNamed.simple]
      at sameParts
    obtain ⟨samePackage, sameName⟩ := List.append_inj' sameParts rfl
    refine ⟨?_, List.singleton_inj.mp sameName⟩
    rw [← named.joined, ← otherNamed.joined, samePackage]
  · rintro ⟨samePackage, sameName⟩
    rw [name, name, samePackage, sameName]

end IsNamed

/-- The file of a snippet lies below the source directory: one name for each part of the
package leads to it, then the simple name with its ending, and all of them are harmless. -/
structure LiesBelow (sourceDir : String) (snippet : Snippet) : Prop where
  written : snippet.path = Path.lead sourceDir ++ "/".intercalate snippet.way
  below : Path.names snippet.path = Path.names sourceDir ++ snippet.way
  sameStart : Path.isAbsolute snippet.path = Path.isAbsolute sourceDir
  package : snippet.package = ".".intercalate (packageSegments snippet.package)
  named : ∀ name ∈ packageSegments snippet.package ++ [snippet.simpleName],
    isName name.toList = true
  harmless : ∀ name ∈ snippet.way,
    name ≠ "" ∧ name ≠ "." ∧ name ≠ ".." ∧ '/' ∉ name.toList ∧ '\x00' ∉ name.toList ∧
      name.toList.head? ≠ some '-' ∧ name.toList.head? ≠ some '@'

theorem IsNamed.liesBelow {sourceDir : String} {snippet : Snippet}
    (named : snippet.IsNamed sourceDir) : snippet.LiesBelow sourceDir where
  written := by
    have proper : ∀ name ∈ snippet.way, Path.IsProper name := fun _ onWay => named.isProper onWay
    rw [named.path_eq_joinAll]
    cases onWay : snippet.way with
    | nil => simp [way] at onWay
    | cons first rest => exact Path.joinAll_eq (onWay ▸ proper) sourceDir
  below := named.names_path
  sameStart := by
    rw [named.path_eq_joinAll]
    exact Path.isAbsolute_joinAll (fun _ onWay => (named.isProper onWay).noSlash) sourceDir
  package := named.joined.symm
  named := by
    intro name isMember
    rcases List.mem_append.mp isMember with isPart | isSimple
    · exact named.parts name isPart
    · rw [List.mem_singleton.mp isSimple]
      exact named.simple
  harmless _ onWay := named.ne_of_mem_way onWay

/-- Whatever a text contains: once it is written, its file lies below the source
directory, and among all that are written there its file belongs to its name alone, as
its name belongs to its package and its simple name alone. -/
theorem written_below_sourceDir {sourceDir : String} {detector otherDetector : Detector}
    {text otherText : String} {before after otherBefore otherAfter : Disk}
    {snippet other : Snippet}
    (written : write sourceDir detector text before = (.ok snippet, after))
    (otherWritten : write sourceDir otherDetector otherText otherBefore = (.ok other, otherAfter)) :
    snippet.LiesBelow sourceDir ∧
      (snippet.path = other.path ↔ snippet.name = other.name) ∧
      (snippet.name = other.name ↔
        snippet.package = other.package ∧ snippet.simpleName = other.simpleName) := by
  obtain ⟨-, -, named⟩ := ofText_done (write_done written).1
  obtain ⟨-, -, otherNamed⟩ := ofText_done (write_done otherWritten).1
  have samePath := named.path_eq_iff otherNamed
  have sameName := named.name_eq_iff otherNamed
  exact ⟨named.liesBelow, samePath.trans sameName.symm, sameName⟩

/-- A disk with a source directory and a directory for one package in it. -/
def packageMade : Disk :=
  { tree := ⟨[("s", .directory [("a", .directory [])])], 0⟩
    current := [] }

/-- A snippet whose package and type are followed by something else. -/
def spread : Snippet :=
  ⟨"package a ;\nclass C<T> {}", "a", "C", false, file "s" "a" "C"⟩

/-- A snippet with a type in a comment before its own. -/
def commented : Snippet :=
  ⟨"package a; /* class X */ class b {}", "a", "b", false, file "s" "a" "b"⟩

/-- A snippet without a file so far can be written to the package's directory. -/
theorem write_packageMade (snippet : Snippet) (name : String)
    (named : ofText "s" (fun _ => false) snippet.text = .ok snippet)
    (inPackage : snippet.package = "a") (usable : Path.IsUsable snippet.path)
    (relative : Path.isAbsolute snippet.path = false)
    (written : Path.segments snippet.path = ["s", "a", name])
    (walked : walk packageMade.tree .newFile linkLimit [] ["s", "a", name] =
      .ok (.absent [name, "a", "s"] false)) :
    (write "s" (fun _ => false) snippet.text packageMade).1 = .ok snippet := by
  have made : makeDirectories (directory "s" snippet.package) packageMade =
      (.ok (), packageMade) := by
    rw [inPackage]
    exact makeDirectories_of_present rfl (by decide)
      (by cbv : packageMade.tree.find [] .name "s/a" = .ok (.present ["a", "s"] .directory))
      (by cbv)
  have free : packageMade.tree.find packageMade.current .newFile snippet.path =
      .ok (.absent [name, "a", "s"] false) :=
    Tree.find_of_walk usable (by rw [Place.origin, relative]; rfl) written rfl walked
  have stored := writeText_of_absent rfl free snippet.text
  exact congrArg Prod.fst (write_of_ok named made stored)

theorem written_below_sourceDir_commented :
    (write "s" (fun _ => false) commented.text packageMade).1 = .ok commented ∧
      (write "s" (fun _ => false) spread.text packageMade).1 = .ok spread ∧
      commented.LiesBelow "s" ∧ (commented.path = spread.path ↔ commented.name = spread.name) := by
  have inPackage : packageOf "package a; /* class X */ class b {}" = .ok "a" := by cbv
  have declared : typeNameOf "package a; /* class X */ class b {}" = .ok "b" := by cbv
  have otherInPackage : packageOf "package a ;\nclass C<T> {}" = .ok "a" := by cbv
  have otherDeclared : typeNameOf "package a ;\nclass C<T> {}" = .ok "C" := by cbv
  have written := write_packageMade commented "b.java" (ofText_of_ok inPackage declared) rfl
    ⟨by decide, by decide, by decide⟩ (by decide)
    (by decide) (by cbv)
  have otherWritten := write_packageMade spread "C.java"
    (ofText_of_ok otherInPackage otherDeclared) rfl
    ⟨by decide, by decide, by decide⟩ (by decide)
    (by decide) (by cbv)
  have general := written_below_sourceDir (Prod.ext written rfl) (Prod.ext otherWritten rfl)
  exact ⟨written, otherWritten, general.1, general.2.1⟩

end Snippet

end SnippetSandbox
