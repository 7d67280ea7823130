import Mathlib.Data.List.Forall2
import SnippetSandbox.Source.Name

/-!
# Comments are removed as by one scan

Removing comments line by line, with a flag from each line to the next, does the same as
one scan over the characters of the whole text that knows whether it is in code, in a line
comment or in a block comment.  What is left has no comment in it any more, so there is
nothing to remove from it a second time.
-/

namespace SnippetSandbox.Source

open Text

/-! ## One line, character by character -/

/-- A mark that is not at the front is looked for behind the first character. -/
theorem breakOn_cons {mark rest : List Char} {character : Char}
    (notHere : after? mark (character :: rest) = none) :
    breakOn mark (character :: rest) =
      (breakOn mark rest).map fun parts => (character :: parts.1, parts.2) := by
  rw [breakOn, notHere]

theorem breakOn_of_after? {mark rest remaining : List Char} {character : Char}
    (here : after? mark (character :: rest) = some remaining) :
    breakOn mark (character :: rest) = some ([], remaining) := by
  rw [breakOn, here]

def OpensComment (text : List Char) : Prop :=
  lineStart <+: text ∨ blockStart <+: text

theorem after?_eq_none {mark text : List Char} (absent : ¬ mark <+: text) :
    after? mark text = none := by
  rw [after?, if_neg (by simpa using absent)]

theorem codeBeforeComment_nil : codeBeforeComment [] = ([], none) := rfl

theorem codeBeforeComment_line (rest : List Char) :
    codeBeforeComment ('/' :: '/' :: rest) = ([], none) := by
  have inline : breakOn lineStart ('/' :: '/' :: rest) = some ([], rest) :=
    breakOn_of_after? rfl
  have block : breakOn blockStart ('/' :: '/' :: rest) =
      (breakOn blockStart ('/' :: rest)).map fun parts => ('/' :: parts.1, parts.2) :=
    breakOn_cons rfl
  rw [codeBeforeComment, inline, block]
  cases breakOn blockStart ('/' :: rest) with
  | none => rfl
  | some parts => simp

theorem codeBeforeComment_block (rest : List Char) :
    codeBeforeComment ('/' :: '*' :: rest) = ([], some rest) := by
  have block : breakOn blockStart ('/' :: '*' :: rest) = some ([], rest) :=
    breakOn_of_after? rfl
  rw [codeBeforeComment, block]
  cases breakOn lineStart ('/' :: '*' :: rest) with
  | none => rfl
  | some parts => simp

/-- A character that begins no comment stays in front of the code behind it. -/
theorem codeBeforeComment_cons {rest : List Char} {character : Char}
    (plain : ¬ OpensComment (character :: rest)) :
    codeBeforeComment (character :: rest) =
      (character :: (codeBeforeComment rest).1, (codeBeforeComment rest).2) := by
  rw [OpensComment, not_or] at plain
  have inline := breakOn_cons (after?_eq_none plain.1)
  have block := breakOn_cons (after?_eq_none plain.2)
  rw [codeBeforeComment, inline, block, codeBeforeComment]
  cases breakOn blockStart rest with
  | none =>
      cases breakOn lineStart rest with
      | none => rfl
      | some short => rfl
  | some parts =>
      cases breakOn lineStart rest with
      | none => rfl
      | some short =>
          simp only [Option.map_some, List.length_cons, Nat.add_lt_add_iff_right]
          split <;> rfl

theorem stripComments_false (line : List Char) :
    stripComments false line = match codeBeforeComment line with
      | (code, some rest) =>
          (code ++ ' ' :: (stripComments true rest).1, (stripComments true rest).2)
      | (code, none) => (code, false) := by
  rw [stripComments]
  split
  next opened => rw [opened]
  next plain => rw [plain]

theorem stripComments_true (line : List Char) :
    stripComments true line = match breakOn blockEnd line with
      | some parts => stripComments false parts.2
      | none => ([], true) := by
  rw [stripComments]
  split
  next ended => rw [ended]
  next goesOn => rw [goesOn]

theorem stripComments_nil (inComment : Bool) : stripComments inComment [] = ([], inComment) := by
  cases inComment with
  | false => rw [stripComments_false, codeBeforeComment_nil]
  | true =>
      rw [stripComments_true]
      rfl

theorem stripComments_line (rest : List Char) :
    stripComments false ('/' :: '/' :: rest) = ([], false) := by
  rw [stripComments_false, codeBeforeComment_line]

theorem stripComments_block (rest : List Char) :
    stripComments false ('/' :: '*' :: rest) =
      (' ' :: (stripComments true rest).1, (stripComments true rest).2) := by
  rw [stripComments_false, codeBeforeComment_block]
  rfl

theorem stripComments_cons {rest : List Char} {character : Char}
    (plain : ¬ OpensComment (character :: rest)) :
    stripComments false (character :: rest) =
      (character :: (stripComments false rest).1, (stripComments false rest).2) := by
  rw [stripComments_false, codeBeforeComment_cons plain, stripComments_false]
  rcases codeBeforeComment rest with ⟨code, _ | following⟩ <;> rfl

theorem stripComments_end (rest : List Char) :
    stripComments true ('*' :: '/' :: rest) = stripComments false rest := by
  rw [stripComments_true, breakOn_of_after? (rfl : after? blockEnd _ = some rest)]

theorem stripComments_inside {rest : List Char} {character : Char}
    (goesOn : ¬ blockEnd <+: character :: rest) :
    stripComments true (character :: rest) = stripComments true rest := by
  rw [stripComments_true, breakOn_cons (after?_eq_none goesOn), stripComments_true]
  cases breakOn blockEnd rest <;> rfl

/-! ## The lines of a text -/

theorem lines_feed (rest : List Char) : lines ('\n' :: rest) = [] :: lines rest := by
  rw [lines]

theorem lines_return (rest : List Char) : lines ('\r' :: '\n' :: rest) = [] :: lines rest := by
  rw [lines]

/-- Characters in front of the first line, which they make up when there is none. -/
def onFirstLine (front : List Char) : List (List Char) → List (List Char)
  | [] => [front]
  | line :: others => (front ++ line) :: others

theorem lines_cons {rest : List Char} {character : Char} (noFeed : character ≠ '\n')
    (noReturn : ∀ following, character = '\r' → rest ≠ '\n' :: following) :
    lines (character :: rest) = onFirstLine [character] (lines rest) := by
  rw [lines]
  · cases lines rest <;> rfl
  · exact noFeed
  · exact noReturn

theorem lines_slash (rest : List Char) :
    lines ('/' :: rest) = onFirstLine ['/'] (lines rest) :=
  lines_cons (by decide) fun _ same => absurd same (by decide)

theorem lines_star (rest : List Char) :
    lines ('*' :: rest) = onFirstLine ['*'] (lines rest) :=
  lines_cons (by decide) fun _ same => absurd same (by decide)

theorem onFirstLine_onFirstLine (front more : List Char) (sourceLines : List (List Char)) :
    onFirstLine front (onFirstLine more sourceLines) = onFirstLine (front ++ more) sourceLines := by
  cases sourceLines with
  | nil => rfl
  | cons line others => simp [onFirstLine]

theorem isPrefix_of_lines {text line : List Char} {others : List (List Char)}
    (broken : lines text = line :: others) : line <+: text := by
  fun_induction lines text generalizing line others with
  | case1 => cases broken
  | case2 rest ih =>
      cases broken
      exact List.nil_prefix
  | case3 rest ih =>
      cases broken
      exact List.nil_prefix
  | case4 character rest _ _ _ ih =>
      cases broken
      exact (List.prefix_cons_inj character).mpr List.nil_prefix
  | case5 character rest _ _ first more found ih =>
      cases broken
      exact (List.prefix_cons_inj character).mpr (ih found)

/-! ## The whole text, character by character -/

/-- What a scan is in the middle of. -/
inductive Region
  | code
  /-- Goes as far as the line does. -/
  | lineComment
  /-- Goes as far as the mark that closes it, on this line or on a later one. -/
  | blockComment
  deriving DecidableEq, Repr

/-- What the next line begins in. -/
def Region.onNextLine : Region → Region
  | code => code
  | lineComment => code
  | blockComment => blockComment

/-- A line that has been scanned: the characters that are left of it and those that end it. -/
structure ScannedLine where
  kept : List Char
  ending : List Char
  deriving DecidableEq, Repr

/-- More characters at the front of the first line, which begins with them if it is new. -/
def keepFirst (front : List Char) : List ScannedLine → List ScannedLine
  | [] => [⟨front, []⟩]
  | line :: others => ⟨front ++ line.kept, line.ending⟩ :: others

/-- The lines of a text without its comments.  A block comment leaves a space where it opens,
and the ends of lines are left wherever they are. -/
def scan : Region → List Char → List ScannedLine
  | _, [] => []
  | region, '\n' :: rest => ⟨[], ['\n']⟩ :: scan region.onNextLine rest
  | region, '\r' :: '\n' :: rest => ⟨[], ['\r', '\n']⟩ :: scan region.onNextLine rest
  | .code, '/' :: '/' :: rest => keepFirst [] (scan .lineComment rest)
  | .code, '/' :: '*' :: rest => keepFirst [' '] (scan .blockComment rest)
  | .code, character :: rest => keepFirst [character] (scan .code rest)
  | .lineComment, _ :: rest => keepFirst [] (scan .lineComment rest)
  | .blockComment, '*' :: '/' :: rest => keepFirst [] (scan .code rest)
  | .blockComment, _ :: rest => keepFirst [] (scan .blockComment rest)

theorem map_kept_keepFirst (front : List Char) (scanned : List ScannedLine) :
    (keepFirst front scanned).map ScannedLine.kept =
      onFirstLine front (scanned.map ScannedLine.kept) := by
  cases scanned <;> rfl

/-- What is left of several lines when the first one begins in this region. -/
def stripFrom : Region → List (List Char) → List (List Char)
  | .code, sourceLines => stripLines false sourceLines
  | .lineComment, [] => []
  | .lineComment, _ :: others => [] :: stripLines false others
  | .blockComment, sourceLines => stripLines true sourceLines

theorem stripFrom_nil (region : Region) : stripFrom region [] = [] := by
  cases region <;> rfl

theorem stripFrom_empty (region : Region) (others : List (List Char)) :
    stripFrom region ([] :: others) = [] :: stripFrom region.onNextLine others := by
  cases region with
  | lineComment => rfl
  | code | blockComment => simp only [stripFrom, stripLines, stripComments_nil, Region.onNextLine]

theorem stripFrom_block (sourceLines : List (List Char)) :
    stripFrom .code (onFirstLine ['/', '*'] sourceLines) =
      onFirstLine [' '] (stripFrom .blockComment sourceLines) := by
  cases sourceLines with
  | nil => simp only [onFirstLine, stripFrom, stripLines, stripComments_block, stripComments_nil]
  | cons line others =>
      simp only [onFirstLine, stripFrom, stripLines, List.cons_append, List.nil_append,
        stripComments_block]

theorem stripFrom_line (sourceLines : List (List Char)) :
    stripFrom .code (onFirstLine ['/', '/'] sourceLines) =
      onFirstLine [] (stripFrom .lineComment sourceLines) := by
  cases sourceLines with
  | nil => simp only [onFirstLine, stripFrom, stripLines, stripComments_line]
  | cons line others =>
      simp only [onFirstLine, stripFrom, stripLines, List.cons_append, List.nil_append,
        stripComments_line]

theorem stripFrom_end (sourceLines : List (List Char)) :
    stripFrom .blockComment (onFirstLine ['*', '/'] sourceLines) =
      onFirstLine [] (stripFrom .code sourceLines) := by
  cases sourceLines with
  | nil => simp only [onFirstLine, stripFrom, stripLines, stripComments_end, stripComments_nil]
  | cons line others =>
      simp only [onFirstLine, stripFrom, stripLines, List.cons_append, List.nil_append,
        stripComments_end]

/-- Lines that are left of a text, of which more is in front. -/
theorem stripFrom_code {text : List Char} {character : Char}
    (plain : ¬ OpensComment (character :: text)) :
    stripFrom .code (onFirstLine [character] (lines text)) =
      onFirstLine [character] (stripFrom .code (lines text)) := by
  have shorter {line : List Char} (isPrefix : line <+: text) :
      ¬ OpensComment (character :: line) := by
    have isPrefix := (List.prefix_cons_inj character).mpr isPrefix
    exact fun opens => plain (opens.imp (·.trans isPrefix) (·.trans isPrefix))
  cases broken : lines text with
  | nil =>
      simp only [onFirstLine, stripFrom, stripLines, stripComments_cons (shorter List.nil_prefix),
        stripComments_nil]
  | cons line others =>
      simp only [onFirstLine, stripFrom, stripLines, List.cons_append, List.nil_append,
        stripComments_cons (shorter (isPrefix_of_lines broken))]

theorem stripFrom_inside {text : List Char} {character : Char}
    (goesOn : ¬ blockEnd <+: character :: text) :
    stripFrom .blockComment (onFirstLine [character] (lines text)) =
      onFirstLine [] (stripFrom .blockComment (lines text)) := by
  have shorter {line : List Char} (isPrefix : line <+: text) :
      ¬ blockEnd <+: character :: line :=
    fun ends => goesOn (ends.trans ((List.prefix_cons_inj character).mpr isPrefix))
  cases broken : lines text with
  | nil =>
      simp only [onFirstLine, stripFrom, stripLines,
        stripComments_inside (shorter List.nil_prefix), stripComments_nil]
  | cons line others =>
      simp only [onFirstLine, stripFrom, stripLines, List.cons_append, List.nil_append,
        stripComments_inside (shorter (isPrefix_of_lines broken))]

/-- The lines that a scan leaves are those that are left line by line. -/
theorem map_kept_scan (region : Region) (text : List Char) :
    (scan region text).map ScannedLine.kept = stripFrom region (lines text) := by
  fun_induction scan region text with
  | case1 region => exact (stripFrom_nil region).symm
  | case2 region rest ih => rw [lines_feed, stripFrom_empty, List.map_cons, ih]
  | case3 region rest ih => rw [lines_return, stripFrom_empty, List.map_cons, ih]
  | case4 rest ih =>
      rw [map_kept_keepFirst, ih, lines_slash, lines_slash, onFirstLine_onFirstLine]
      exact (stripFrom_line (lines rest)).symm
  | case5 rest ih =>
      rw [map_kept_keepFirst, ih, lines_slash, lines_star, onFirstLine_onFirstLine]
      exact (stripFrom_block (lines rest)).symm
  | case6 character rest noFeed noReturn noLine noBlock ih =>
      have plain : ¬ OpensComment (character :: rest) := by
        rintro (⟨following, same⟩ | ⟨following, same⟩)
        · cases same
          exact noLine following rfl rfl
        · cases same
          exact noBlock following rfl rfl
      rw [map_kept_keepFirst, ih, lines_cons noFeed noReturn, stripFrom_code plain]
  | case7 character rest noFeed noReturn ih =>
      rw [map_kept_keepFirst, ih, lines_cons noFeed noReturn]
      cases lines rest <;> rfl
  | case8 rest ih =>
      rw [map_kept_keepFirst, ih, lines_star, lines_slash, onFirstLine_onFirstLine]
      exact (stripFrom_end (lines rest)).symm
  | case9 character rest noFeed noReturn noEnd ih =>
      have goesOn : ¬ blockEnd <+: character :: rest := by
        rintro ⟨following, same⟩
        cases same
        exact noEnd following rfl rfl
      rw [map_kept_keepFirst, ih, lines_cons noFeed noReturn, stripFrom_inside goesOn]

/-! ## The ends of lines -/

theorem map_ending_keepFirst (front : List Char) (scanned : List ScannedLine) :
    (keepFirst front scanned).map ScannedLine.ending =
      onFirstLine [] (scanned.map ScannedLine.ending) := by
  cases scanned <;> rfl

/-- Lines with what ends them, one after another. -/
def joinLines (sourceLines endings : List (List Char)) : List Char :=
  (List.zipWith (· ++ ·) sourceLines endings).flatten

theorem joinLines_onFirstLine {sourceLines endings : List (List Char)} (front : List Char)
    (sameLength : sourceLines.length = endings.length) :
    joinLines (onFirstLine front sourceLines) (onFirstLine [] endings) =
      front ++ joinLines sourceLines endings := by
  cases sourceLines with
  | nil =>
      cases endings with
      | nil => simp [joinLines, onFirstLine]
      | cons ending endings => cases sameLength
  | cons line others =>
      cases endings with
      | nil => cases sameLength
      | cons ending endings => simp [joinLines, onFirstLine]

theorem length_scan (region : Region) (text : List Char) :
    (lines text).length = ((scan region text).map ScannedLine.ending).length := by
  have sameLength : (stripFrom region (lines text)).length = (lines text).length := by
    cases region with
    | code | blockComment => exact length_stripLines _ _
    | lineComment =>
        cases lines text with
        | nil => rfl
        | cons line others => simp [stripFrom, length_stripLines]
  rw [← sameLength, ← map_kept_scan, List.length_map, List.length_map]

/-- The ends of the lines are those that the text has. -/
theorem joinLines_scan (region : Region) (text : List Char) :
    joinLines (lines text) ((scan region text).map ScannedLine.ending) = text := by
  have longer {region : Region} {rest : List Char} (character : Char)
      (joined : joinLines (lines rest) ((scan region rest).map ScannedLine.ending) = rest) :
      joinLines (onFirstLine [character] (lines rest))
        (onFirstLine [] ((scan region rest).map ScannedLine.ending)) = character :: rest := by
    rw [joinLines_onFirstLine [character] (length_scan region rest), joined]
    rfl
  fun_induction scan region text with
  | case1 region => rfl
  | case2 region rest ih =>
      rw [lines_feed, List.map_cons]
      exact congrArg ('\n' :: ·) ih
  | case3 region rest ih =>
      rw [lines_return, List.map_cons]
      exact congrArg ('\r' :: '\n' :: ·) ih
  | case4 rest ih =>
      rw [map_ending_keepFirst, lines_slash, lines_slash, onFirstLine_onFirstLine,
        joinLines_onFirstLine _ (length_scan _ rest), ih]
      rfl
  | case5 rest ih =>
      rw [map_ending_keepFirst, lines_slash, lines_star, onFirstLine_onFirstLine,
        joinLines_onFirstLine _ (length_scan _ rest), ih]
      rfl
  | case6 character rest noFeed noReturn _ _ ih =>
      rw [map_ending_keepFirst, lines_cons noFeed noReturn, longer character ih]
  | case7 character rest noFeed noReturn ih =>
      rw [map_ending_keepFirst, lines_cons noFeed noReturn, longer character ih]
  | case8 rest ih =>
      rw [map_ending_keepFirst, lines_star, lines_slash, onFirstLine_onFirstLine,
        joinLines_onFirstLine _ (length_scan _ rest), ih]
      rfl
  | case9 character rest noFeed noReturn _ ih =>
      rw [map_ending_keepFirst, lines_cons noFeed noReturn, longer character ih]

theorem mem_keepFirst {front : List Char} {scanned : List ScannedLine} {line : ScannedLine}
    (kept : line ∈ keepFirst front scanned) :
    line.ending = [] ∨ ∃ other ∈ scanned, other.ending = line.ending := by
  cases scanned with
  | nil =>
      rw [List.mem_singleton.mp kept]
      exact .inl rfl
  | cons first others =>
      rcases List.mem_cons.mp kept with rfl | isLater
      · exact .inr ⟨first, List.mem_cons_self, rfl⟩
      · exact .inr ⟨line, List.mem_cons_of_mem _ isLater, rfl⟩

/-- A line ends with a line feed, with a carriage return in front of one, or with the text. -/
theorem ending_scan {region : Region} {text : List Char} {line : ScannedLine}
    (scanned : line ∈ scan region text) :
    line.ending = ['\n'] ∨ line.ending = ['\r', '\n'] ∨ line.ending = [] := by
  fun_induction scan region text generalizing line with
  | case1 => cases scanned
  | case2 region rest ih =>
      rcases List.mem_cons.mp scanned with rfl | isLater
      · exact .inl rfl
      · exact ih isLater
  | case3 region rest ih =>
      rcases List.mem_cons.mp scanned with rfl | isLater
      · exact .inr (.inl rfl)
      · exact ih isLater
  | case4 _ ih | case5 _ ih | case6 _ _ _ _ _ _ ih | case7 _ _ _ _ ih | case8 _ ih
  | case9 _ _ _ _ _ ih =>
      rcases mem_keepFirst scanned with atEnd | ⟨other, isOther, same⟩
      · exact .inr (.inr atEnd)
      · exact same ▸ ih isOther

/-! ## Nothing is left to remove -/

def IsPlain (code : List Char) : Prop :=
  ¬ lineStart <:+: code ∧ ¬ blockStart <:+: code

theorem isPlain_nil : IsPlain [] :=
  ⟨by simp [lineStart], by simp [blockStart]⟩

theorem isPlain_cons {code : List Char} {character : Char} :
    IsPlain (character :: code) ↔ ¬ OpensComment (character :: code) ∧ IsPlain code := by
  simp only [IsPlain, OpensComment, List.infix_cons_iff, not_or]
  constructor
  · rintro ⟨⟨noLine, line⟩, noBlock, block⟩
    exact ⟨⟨noLine, noBlock⟩, line, block⟩
  · rintro ⟨⟨noLine, noBlock⟩, line, block⟩
    exact ⟨⟨noLine, line⟩, noBlock, block⟩

theorem isPrefix_codeBeforeComment (line : List Char) : (codeBeforeComment line).1 <+: line := by
  induction line with
  | nil => exact List.nil_prefix
  | cons character rest ih =>
      by_cases opens : OpensComment (character :: rest)
      · rcases opens with ⟨following, same⟩ | ⟨following, same⟩
        · rw [← same, lineStart, List.cons_append, List.cons_append, List.nil_append,
            codeBeforeComment_line]
          exact List.nil_prefix
        · rw [← same, blockStart, List.cons_append, List.cons_append, List.nil_append,
            codeBeforeComment_block]
          exact List.nil_prefix
      · rw [codeBeforeComment_cons opens]
        exact (List.prefix_cons_inj character).mpr ih

theorem isPlain_codeBeforeComment (line : List Char) : IsPlain (codeBeforeComment line).1 := by
  induction line with
  | nil => exact isPlain_nil
  | cons character rest ih =>
      by_cases opens : OpensComment (character :: rest)
      · rcases opens with ⟨following, same⟩ | ⟨following, same⟩
        · rw [← same, lineStart, List.cons_append, List.cons_append, List.nil_append,
            codeBeforeComment_line]
          exact isPlain_nil
        · rw [← same, blockStart, List.cons_append, List.cons_append, List.nil_append,
            codeBeforeComment_block]
          exact isPlain_nil
      · rw [codeBeforeComment_cons opens]
        refine isPlain_cons.mpr ⟨fun opensCode => opens ?_, ih⟩
        have isPrefix := (List.prefix_cons_inj character).mpr (isPrefix_codeBeforeComment rest)
        exact opensCode.imp (·.trans isPrefix) (·.trans isPrefix)

/-- The space that a comment leaves keeps the code in front of it from the code behind it. -/
theorem IsPlain.append {front behind : List Char} (plain : IsPlain front)
    (plainBehind : IsPlain behind) : IsPlain (front ++ ' ' :: behind) := by
  induction front with
  | nil =>
      refine isPlain_cons.mpr ⟨?_, plainBehind⟩
      rintro (⟨_, same⟩ | ⟨_, same⟩) <;> cases same
  | cons character front ih =>
      obtain ⟨noComment, plainRest⟩ := isPlain_cons.mp plain
      refine isPlain_cons.mpr ⟨fun opens => noComment ?_, ih plainRest⟩
      cases front with
      | nil => rcases opens with ⟨_, same⟩ | ⟨_, same⟩ <;> cases same
      | cons second front =>
          rcases opens with ⟨_, same⟩ | ⟨_, same⟩
          · cases same
            exact .inl ⟨front, rfl⟩
          · cases same
            exact .inr ⟨front, rfl⟩

theorem isPlain_stripComments (inComment : Bool) (line : List Char) :
    IsPlain (stripComments inComment line).1 := by
  fun_induction stripComments inComment line with
  | case1 line _ rest _ ih => exact ih
  | case2 line _ => exact isPlain_nil
  | case3 line code rest opened remaining stillOpen stripped ih =>
      rw [stripped] at ih
      have plain := isPlain_codeBeforeComment line
      rw [opened] at plain
      exact plain.append ih
  | case4 line code closed =>
      have plain := isPlain_codeBeforeComment line
      rw [closed] at plain
      exact plain

theorem stripComments_of_isPlain {line : List Char} (plain : IsPlain line) :
    stripComments false line = (line, false) := by
  induction line with
  | nil => exact stripComments_nil false
  | cons character rest ih =>
      obtain ⟨noComment, plainRest⟩ := isPlain_cons.mp plain
      rw [stripComments_cons noComment, ih plainRest]

theorem isPlain_of_mem_stripLines {inComment : Bool} {sourceLines : List (List Char)}
    {line : List Char} (isMember : line ∈ stripLines inComment sourceLines) : IsPlain line := by
  induction sourceLines generalizing inComment with
  | nil => cases isMember
  | cons first others ih =>
      rcases List.mem_cons.mp isMember with rfl | isLater
      · exact isPlain_stripComments inComment first
      · exact ih isLater

theorem stripLines_of_isPlain {sourceLines : List (List Char)}
    (plain : ∀ line ∈ sourceLines, IsPlain line) : stripLines false sourceLines = sourceLines := by
  induction sourceLines with
  | nil => rfl
  | cons first others ih =>
      rw [stripLines, stripComments_of_isPlain (plain first List.mem_cons_self)]
      exact congrArg (first :: ·) (ih fun line isLater => plain line (List.mem_cons_of_mem _ isLater))

/-! ## Where lines are cut -/

/-- The slices of a line that are left, each from one byte to another.  `offset` is the first
byte of what the line still has to be searched for; a mark takes two. -/
def slices (inComment : Bool) (offset : Nat) (line : List Char) : List (Nat × Nat) :=
  match inComment with
  | true =>
      match _found : breakOn blockEnd line with
      | some (comment, rest) =>
          slices false (offset + (String.ofList comment).utf8ByteSize + 2) rest
      | none => [(offset, offset)]
  | false =>
      match _opened : codeBeforeComment line with
      | (code, some rest) =>
          let stop := offset + (String.ofList code).utf8ByteSize
          (offset, stop) :: slices true (stop + 2) rest
      | (code, none) => [(offset, offset + (String.ofList code).utf8ByteSize)]
termination_by line.length
decreasing_by
  · have total := length_of_breakOn _found
    simp only [blockEnd, List.length_cons, List.length_nil] at total
    omega
  · have shorter := length_of_codeBeforeComment _opened
    omega

/-- These characters are between two bytes of a text, both on the border of a character. -/
structure IsSlice (text : String) (piece : List Char) (slice : Nat × Nat) : Prop where
  starts : String.Pos.Raw.IsValid text ⟨slice.1⟩
  stops : String.Pos.Raw.IsValid text ⟨slice.2⟩
  bytes : text.toByteArray.extract slice.1 slice.2 = (String.ofList piece).toByteArray

theorem isSlice (front piece behind : List Char) {start : Nat}
    (here : start = (String.ofList front).utf8ByteSize) :
    IsSlice (String.ofList (front ++ piece ++ behind)) piece
      (start, start + (String.ofList piece).utf8ByteSize) where
  starts := by
    refine String.Pos.Raw.isValid_iff_exists_append.mpr
      ⟨String.ofList front, String.ofList (piece ++ behind), ?_, ?_⟩
    · rw [← String.ofList_append, List.append_assoc]
    · rw [here]
      rfl
  stops := by
    refine String.Pos.Raw.isValid_iff_exists_append.mpr
      ⟨String.ofList (front ++ piece), String.ofList behind, ?_, ?_⟩
    · rw [← String.ofList_append]
    · rw [here, String.ofList_append, ← String.utf8ByteSize_append]
      rfl
  bytes := by
    have size : (String.ofList front).toByteArray.size = start := here ▸ String.size_toByteArray
    rw [List.append_assoc, String.ofList_append, String.ofList_append, String.toByteArray_append,
      String.toByteArray_append, ← size, ← Nat.add_zero (ByteArray.size _), Nat.add_assoc,
      Nat.zero_add, ByteArray.extract_append_size_add]
    exact ByteArray.extract_append_eq_left String.size_toByteArray.symm

/-- In front of a block comment is the code, and behind its mark is the rest. -/
theorem eq_append_of_codeBeforeComment {line code rest : List Char}
    (opened : codeBeforeComment line = (code, some rest)) : line = code ++ blockStart ++ rest := by
  unfold codeBeforeComment at opened
  split at opened
  next found _ =>
    split at opened
    next => cases opened
    next =>
      cases opened
      exact eq_append_of_breakOn found
  next found _ =>
    cases opened
    exact eq_append_of_breakOn found
  next => cases opened
  next => cases opened

theorem ne_nil_of_slices {inComment : Bool} {offset : Nat} {line : List Char} :
    slices inComment offset line ≠ [] := by
  fun_induction slices inComment offset line with
  | case1 _ _ _ _ _ ih => exact ih
  | case2 | case3 | case4 => exact List.cons_ne_nil _ _

/-- Each turn of the search leaves less of the line, so there are few. -/
theorem length_slices_le (inComment : Bool) (offset : Nat) (line : List Char) :
    (slices inComment offset line).length ≤ line.length + 1 := by
  fun_induction slices inComment offset line with
  | case1 offset line comment rest found ih =>
      have total := length_of_breakOn found
      omega
  | case2 | case4 => simp
  | case3 offset line code rest opened stop ih =>
      have shorter := length_of_codeBeforeComment opened
      rw [List.length_cons]
      omega

theorem utf8ByteSize_ofList_append (front behind : List Char) :
    (String.ofList (front ++ behind)).utf8ByteSize =
      (String.ofList front).utf8ByteSize + (String.ofList behind).utf8ByteSize := by
  rw [String.ofList_append, String.utf8ByteSize_append]

/-- The code that is left of a line is made of slices of it, with a space between two. -/
theorem isSlice_slices (inComment : Bool) (front line : List Char) :
    ∃ pieces, (stripComments inComment line).1 = [' '].intercalate pieces ∧
      List.Forall₂ (IsSlice (String.ofList (front ++ line))) pieces
        (slices inComment (String.ofList front).utf8ByteSize line) := by
  have markSize (mark : List Char) (isMark : mark = blockStart ∨ mark = blockEnd) :
      (String.ofList mark).utf8ByteSize = 2 := by
    rcases isMark with rfl | rfl <;> decide
  generalize start : (String.ofList front).utf8ByteSize = offset
  fun_induction slices inComment offset line generalizing front with
  | case1 offset line comment rest found ih =>
      have shape := eq_append_of_breakOn found
      obtain ⟨pieces, same, areSlices⟩ := ih (front ++ comment ++ blockEnd) (by
        rw [utf8ByteSize_ofList_append, utf8ByteSize_ofList_append, start,
          markSize blockEnd (.inr rfl)])
      refine ⟨pieces, ?_, ?_⟩
      · rw [stripComments_true, found]
        exact same
      · rw [shape]
        simpa only [List.append_assoc] using areSlices
  | case2 offset line found =>
      refine ⟨[[]], ?_, ?_⟩
      · rw [stripComments_true, found]
        rfl
      · have slice := isSlice front [] line start.symm
        rw [List.append_nil] at slice
        exact .cons slice .nil
  | case3 offset line code rest opened stop ih =>
      have shape := eq_append_of_codeBeforeComment opened
      obtain ⟨pieces, same, areSlices⟩ := ih (front ++ code ++ blockStart) (by
        rw [utf8ByteSize_ofList_append, utf8ByteSize_ofList_append, start,
          markSize blockStart (.inl rfl)])
      refine ⟨code :: pieces, ?_, ?_⟩
      · rw [stripComments_false, opened]
        dsimp only
        rw [same]
        cases pieces with
        | nil => exact absurd (List.forall₂_nil_left_iff.mp areSlices) ne_nil_of_slices
        | cons piece pieces => simp
      · have slice := isSlice front code (blockStart ++ rest) start.symm
        rw [← List.append_assoc] at slice
        rw [shape]
        simpa only [List.append_assoc] using List.Forall₂.cons slice areSlices
  | case4 offset line code closed =>
      obtain ⟨behind, shape⟩ := isPrefix_codeBeforeComment line
      rw [closed] at shape
      refine ⟨[code], ?_, ?_⟩
      · rw [stripComments_false, closed]
        simp
      · have slice := isSlice front code behind start.symm
        rw [List.append_assoc, shape] at slice
        exact .cons slice .nil

end SnippetSandbox.Source
