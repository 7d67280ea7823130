import SnippetSandbox.Text.Range

/-!
# Blank characters

The characters that separate words and are trimmed from the ends of a line:
those with the Unicode property `White_Space`.  Zero-width characters and the
byte order mark are not among them.
-/

namespace SnippetSandbox.Text

/-- Every character with the property `White_Space`. -/
def blankRanges : List (Nat × Nat) :=
  [ (0x9, 0xd), (0x20, 0x20), (0x85, 0x85), (0xa0, 0xa0), (0x1680, 0x1680), (0x2000, 0x200a),
    (0x2028, 0x2029), (0x202f, 0x202f), (0x205f, 0x205f), (0x3000, 0x3000) ]

def isBlank (character : Char) : Bool :=
  inRanges blankRanges character.toNat

/-- The blank characters include space, tab, line feed and carriage return. -/
theorem isBlank_of_isWhitespace {character : Char} (white : character.isWhitespace = true) :
    isBlank character = true := by
  simp only [Char.isWhitespace, Bool.or_eq_true, decide_eq_true_eq] at white
  rcases white with ((equal | equal) | equal) | equal <;> subst equal <;> decide

end SnippetSandbox.Text
