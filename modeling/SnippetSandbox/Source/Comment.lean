import SnippetSandbox.Text.Lines

/-!
# Removing comments from source lines

A block comment opens at its marker, leaves one space in its place, may run
over several lines and ends at the first closing marker behind the opening
one.  A line comment removes the rest of its line.  Inside a comment no other
marker counts, and text literals are not recognised.
-/

namespace SnippetSandbox.Source

open Text

def blockStart : List Char := ['/', '*']

def blockEnd : List Char := ['*', '/']

def lineStart : List Char := ['/', '/']

/-- The code before the first comment of a line that starts outside any comment,
and what follows when that comment is a block comment. -/
def codeBeforeComment (line : List Char) : List Char × Option (List Char) :=
  match breakOn blockStart line, breakOn lineStart line with
  | some (code, rest), some (shortCode, _) =>
      if shortCode.length < code.length then (shortCode, none) else (code, some rest)
  | some (code, rest), none => (code, some rest)
  | none, some (code, _) => (code, none)
  | none, none => (line, none)

/-- What follows an opened block comment is shorter than the line it opened in. -/
theorem length_of_codeBeforeComment {line code rest : List Char}
    (opened : codeBeforeComment line = (code, some rest)) : rest.length + 1 < line.length := by
  unfold codeBeforeComment at opened
  split at opened
  next before following _ _ found _ =>
    have total := length_of_breakOn found
    simp only [blockStart, List.length_cons, List.length_nil] at total
    split at opened
    next => simp at opened
    next =>
      simp only [Prod.mk.injEq, Option.some.injEq] at opened
      obtain ⟨_, rfl⟩ := opened
      omega
  next before following found _ =>
    have total := length_of_breakOn found
    simp only [blockStart, List.length_cons, List.length_nil] at total
    simp only [Prod.mk.injEq, Option.some.injEq] at opened
    obtain ⟨_, rfl⟩ := opened
    omega
  next => simp at opened
  next => simp at opened

/-- The code left on a line, and whether a block comment is still open at its
end.  The flag tells whether one is open at the line's start. -/
def stripComments (inComment : Bool) (line : List Char) : List Char × Bool :=
  match inComment with
  | true =>
      match _found : breakOn blockEnd line with
      | some (_, rest) => stripComments false rest
      | none => ([], true)
  | false =>
      match _opened : codeBeforeComment line with
      | (code, some rest) =>
          let (remaining, stillOpen) := stripComments true rest
          (code ++ ' ' :: remaining, stillOpen)
      | (code, none) => (code, false)
termination_by line.length
decreasing_by
  · have total := length_of_breakOn _found
    simp only [blockEnd, List.length_cons, List.length_nil] at total
    omega
  · have shorter := length_of_codeBeforeComment _opened
    omega

def stripLines (inComment : Bool) : List (List Char) → List (List Char)
  | [] => []
  | line :: others =>
      let (code, stillOpen) := stripComments inComment line
      code :: stripLines stillOpen others

/-- Every line keeps its place. -/
theorem length_stripLines (inComment : Bool) (sourceLines : List (List Char)) :
    (stripLines inComment sourceLines).length = sourceLines.length := by
  induction sourceLines generalizing inComment with
  | nil => rfl
  | cons line others ih => simp [stripLines, ih]

end SnippetSandbox.Source
