import SnippetSandbox.Json.Text

/-!
# Written texts are read back

Every character is read back from the way it is written, whether it stands for
itself, behind a backslash, or as the four digits of its code.  A written text
ends at its closing quote, because no quote in it stands unescaped.
-/

namespace SnippetSandbox.Json

open Text (hexDigit)

theorem hexValue?_hexDigit {value : Nat} (small : value < 16) :
    hexValue? (hexDigit value) = some value := by
  have all : ∀ value < 16, hexValue? (hexDigit value) = some value := by decide
  exact all value small

/-- An escape is read as its character, and the text goes on behind it. -/
theorem readText_escape {escape rest characters remaining : List Char} {character : Char}
    (escaped : readEscape escape = .ok (character, rest))
    (read : readText rest = .ok (characters, remaining)) :
    readText ('\\' :: escape) = .ok (character :: characters, remaining) := by
  rw [readText]
  split
  next halted => rw [escaped] at halted; cases halted
  next found =>
    rw [escaped] at found
    cases found
    rw [read]

/-- The escape by a code below 32 stands for the character of that code. -/
theorem readEscape_control {character : Char} (control : character.toNat < 0x20)
    (rest : List Char) :
    readEscape ('u' :: '0' :: '0' :: hexDigit (character.toNat / 16) ::
      hexDigit (character.toNat % 16) :: rest) = .ok (character, rest) := by
  have high : hexValue? (hexDigit (character.toNat / 16)) = some (character.toNat / 16) :=
    hexValue?_hexDigit (by omega)
  have low : hexValue? (hexDigit (character.toNat % 16)) = some (character.toNat % 16) :=
    hexValue?_hexDigit (by omega)
  have zero : hexValue? '0' = some 0 := by decide
  have unit : hexUnit? '0' '0' (hexDigit (character.toNat / 16))
      (hexDigit (character.toNat % 16)) = some character.toNat := by
    simp only [hexUnit?, zero, high, low, Option.bind_eq_bind, Option.bind_some, Option.pure_def]
    congr 1
    omega
  have notLow : isLowSurrogate character.toNat = false := by
    simp [isLowSurrogate]
    omega
  have notHigh : isHighSurrogate character.toNat = false := by
    simp [isHighSurrogate]
    omega
  simp [readEscape, readHexUnit, unit, notLow, notHigh]

theorem readText_encodeChar {rest characters remaining : List Char} (character : Char)
    (read : readText rest = .ok (characters, remaining)) :
    readText (encodeChar character ++ rest) = .ok (character :: characters, remaining) := by
  unfold encodeChar
  split
  case h_8 other noQuote noBackslash _ _ _ _ _ =>
    split
    next control => exact readText_escape (readEscape_control control rest) read
    next printed =>
      rw [List.singleton_append, readText, if_neg printed, read]
      · exact noQuote
      · exact noBackslash
  all_goals exact readText_escape rfl read

/-- A written text is read back up to its closing quote. -/
theorem readText_encoded (text rest : List Char) :
    readText (text.flatMap encodeChar ++ '"' :: rest) = .ok (text, rest) := by
  induction text with
  | nil => rw [List.flatMap_nil, List.nil_append, readText]
  | cons character text ih =>
      rw [List.flatMap_cons, List.append_assoc]
      exact readText_encodeChar character ih

end SnippetSandbox.Json
