import SnippetSandbox.Text.Blank

/-!
# Lines, words and pieces of a text

A text is a list of characters.  A line ends at a line feed and loses one
carriage return before it; what follows the last line feed is a line only when
it is not empty.  Words are the maximal runs of characters that are not blank.
-/

namespace SnippetSandbox.Text

def lines : List Char → List (List Char)
  | [] => []
  | '\n' :: rest => [] :: lines rest
  | '\r' :: '\n' :: rest => [] :: lines rest
  | character :: rest =>
      match lines rest with
      | [] => [[character]]
      | line :: others => (character :: line) :: others

def trimStart (text : List Char) : List Char :=
  text.dropWhile isBlank

def trim (text : List Char) : List Char :=
  (trimStart (trimStart text).reverse).reverse

def words : List Char → List (List Char)
  | [] => []
  | character :: rest =>
      if isBlank character then words rest
      else
        (character :: rest.takeWhile fun next => !isBlank next) ::
          words (rest.dropWhile fun next => !isBlank next)
termination_by text => text.length
decreasing_by
  · simp
  · have shorter := (List.dropWhile_sublist (l := rest) fun next => !isBlank next).length_le
    simp only [List.length_cons]
    omega

/-- The pieces of a text between the occurrences of a separating character;
one more than there are occurrences. -/
def splitOn (separator : Char) : List Char → List (List Char)
  | [] => [[]]
  | character :: rest =>
      if character = separator then [] :: splitOn separator rest
      else
        match splitOn separator rest with
        | [] => [[character]]
        | piece :: others => (character :: piece) :: others

/-- What follows the given beginning, if the text has that beginning. -/
def after? (beginning text : List Char) : Option (List Char) :=
  if beginning.isPrefixOf text then some (text.drop beginning.length) else none

/-- The text before and after the first occurrence of a mark. -/
def breakOn (mark : List Char) : List Char → Option (List Char × List Char)
  | [] => if mark = [] then some ([], []) else none
  | character :: rest =>
      match after? mark (character :: rest) with
      | some remaining => some ([], remaining)
      | none => (breakOn mark rest).map fun parts => (character :: parts.1, parts.2)

/-- The text has an occurrence of the pattern; the empty pattern occurs everywhere. -/
def hasPattern (pattern text : List Char) : Bool :=
  (breakOn pattern text).isSome

theorem eq_append_of_after? {beginning text remaining : List Char}
    (found : after? beginning text = some remaining) : text = beginning ++ remaining := by
  unfold after? at found
  split at found
  next isPrefix =>
    obtain ⟨tail, rfl⟩ := List.isPrefixOf_iff_prefix.mp isPrefix
    simp only [Option.some.injEq] at found
    simp [← found]
  next => cases found

/-- Breaking a text loses nothing but the mark, which stood between the parts. -/
theorem eq_append_of_breakOn {mark text before following : List Char}
    (found : breakOn mark text = some (before, following)) :
    text = before ++ mark ++ following := by
  induction text generalizing before with
  | nil =>
      unfold breakOn at found
      split at found
      next empty => simp_all
      next => cases found
  | cons character rest ih =>
      unfold breakOn at found
      split at found
      next remaining matched =>
        simp only [Option.some.injEq, Prod.mk.injEq] at found
        obtain ⟨rfl, rfl⟩ := found
        simpa using eq_append_of_after? matched
      next =>
        obtain ⟨⟨front, back⟩, broken, equal⟩ := Option.map_eq_some_iff.mp found
        simp only [Prod.mk.injEq] at equal
        obtain ⟨rfl, rfl⟩ := equal
        simp [ih broken]

theorem length_of_breakOn {mark text before following : List Char}
    (found : breakOn mark text = some (before, following)) :
    text.length = before.length + mark.length + following.length := by
  simp [eq_append_of_breakOn found, Nat.add_assoc]

/-- Joining the pieces with the separator gives the text back. -/
theorem intercalate_splitOn (separator : Char) (text : List Char) :
    [separator].intercalate (splitOn separator text) = text := by
  induction text with
  | nil => rfl
  | cons character rest ih =>
      unfold splitOn
      cases pieces : splitOn separator rest with
      | nil =>
          rw [pieces] at ih
          have empty : rest = [] := by simpa using ih.symm
          subst empty
          cases pieces
      | cons piece others =>
          rw [pieces] at ih
          split
          next same =>
            subst same
            simpa [List.intercalate] using ih
          next =>
            cases others with
            | nil => simpa [List.intercalate] using ih
            | cons next more => simpa [List.intercalate] using ih

end SnippetSandbox.Text
