import SnippetSandbox.Proofs.Json.Delimited

/-!
# Where a text ends

A text is written in characters that stand for themselves, escapes by a letter and escapes
by four hexadecimal digits.  The reader that takes its characters and the one that only
passes over it come to the same closing quote.  Only the first one asks that surrogates come
in pairs, and its answer depends on the written text alone.
-/

namespace SnippetSandbox.Json

/-- The characters that may stand between two quotes. -/
inductive IsQuoted : List Char → Prop
  | nil : IsQuoted []
  | plain {character : Char} {written : List Char} (printed : 0x20 ≤ character.toNat)
      (noQuote : character ≠ '"') (noBackslash : character ≠ '\\') (others : IsQuoted written) :
      IsQuoted (character :: written)
  | letter {letter : Char} {written : List Char}
      (known : letter ∈ ['"', '\\', '/', 'b', 'f', 'n', 'r', 't']) (others : IsQuoted written) :
      IsQuoted ('\\' :: letter :: written)
  | unit {first second third fourth : Char} {written : List Char}
      (areDigits : ∀ digit ∈ [first, second, third, fourth], (hexValue? digit).isSome)
      (others : IsQuoted written) :
      IsQuoted ('\\' :: 'u' :: first :: second :: third :: fourth :: written)

theorem exists_letterEscape {letter : Char}
    (known : letter ∈ ['"', '\\', '/', 'b', 'f', 'n', 'r', 't']) :
    letter ≠ 'u' ∧ ∃ character, letterEscape? letter = some character := by
  simp only [List.mem_cons, List.not_mem_nil, or_false] at known
  rcases known with rfl | rfl | rfl | rfl | rfl | rfl | rfl | rfl <;> exact ⟨by decide, _, rfl⟩

theorem exists_hexUnit {first second third fourth : Char}
    (areDigits : ∀ digit ∈ [first, second, third, fourth], (hexValue? digit).isSome) :
    ∃ unit, ∀ rest, readHexUnit (first :: second :: third :: fourth :: rest) = .ok (unit, rest) := by
  simp only [List.forall_mem_cons, Option.isSome_iff_exists] at areDigits
  obtain ⟨⟨one, isOne⟩, ⟨two, isTwo⟩, ⟨three, isThree⟩, ⟨four, isFour⟩, -⟩ := areDigits
  refine ⟨((one * 16 + two) * 16 + three) * 16 + four, fun rest => ?_⟩
  simp [readHexUnit, hexUnit?, isOne, isTwo, isThree, isFour]

theorem skipText_quoted {written : List Char} (isQuoted : IsQuoted written) (rest : List Char) :
    skipText (written ++ '"' :: rest) = .ok rest := by
  induction isQuoted with
  | nil => rw [List.nil_append, skipText]
  | plain printed noQuote noBackslash _ ih =>
      rw [List.cons_append, skipText, if_neg (Nat.not_lt.mpr printed), ih]
      · exact noQuote
      · exact fun same => absurd same noBackslash
      · exact fun _ same => absurd same noBackslash
      · exact fun _ _ same => absurd same noBackslash
  | letter known _ ih =>
      obtain ⟨noUnit, character, escaped⟩ := exists_letterEscape known
      rw [List.cons_append, List.cons_append, skipText, if_pos (by rw [escaped]; rfl), ih]
      exact noUnit
  | unit areDigits _ ih =>
      obtain ⟨unit, read⟩ := exists_hexUnit areDigits
      simp only [List.cons_append]
      rw [skipText]
      split
      next halted => cases (read _).symm.trans halted
      next found =>
        cases (read _).symm.trans found
        exact ih

/-! ## The characters of a text -/

/-- What is read of a text whose first character is known. -/
def behindCharacter (character : Char) (others : Option (List Char × List Char)) :
    Option (List Char × List Char) :=
  others.map fun found => (character :: found.1, found.2)

theorem readText_plain {character : Char} (printed : 0x20 ≤ character.toNat)
    (noQuote : character ≠ '"') (noBackslash : character ≠ '\\') (rest : List Char) :
    (readText (character :: rest)).toOption =
      behindCharacter character (readText rest).toOption := by
  rw [readText, if_neg (Nat.not_lt.mpr printed)]
  · cases readText rest <;> rfl
  · exact noQuote
  · exact noBackslash

theorem readText_behindEscape (escape : List Char) :
    (readText ('\\' :: escape)).toOption = (readEscape escape).toOption.bind fun found =>
      behindCharacter found.1 (readText found.2).toOption := by
  rw [readText]
  split
  next halted => rw [halted]; rfl
  next character rest found =>
    rw [found]
    change _ = behindCharacter character (readText rest).toOption
    cases readText rest <;> rfl

theorem readEscape_letter {letter character : Char} (noUnit : letter ≠ 'u')
    (known : letterEscape? letter = some character) (rest : List Char) :
    readEscape (letter :: rest) = .ok (character, rest) := by
  rw [readEscape, known]
  exact noUnit

/-- The first half of a surrogate pair stands in front of its second half, or has no reading. -/
theorem readSecondHalf_quoted (high : Nat) {written : List Char} (isQuoted : IsQuoted written) :
    (∀ rest, (readSecondHalf high (written ++ '"' :: rest)).toOption = none) ∨
      ∃ character others, IsQuoted others ∧ others.length < written.length ∧
        ∀ rest, readSecondHalf high (written ++ '"' :: rest) =
          .ok (character, others ++ '"' :: rest) := by
  cases isQuoted with
  | nil => exact .inl fun rest => rfl
  | plain printed noQuote noBackslash others =>
      refine .inl fun rest => ?_
      rw [List.cons_append, readSecondHalf]
      · rfl
      · exact List.cons_ne_nil _ _
      · exact fun same => noBackslash (List.cons.inj same).1
      · exact fun _ same => noBackslash (List.cons.inj same).1
      · exact fun _ same => noBackslash (List.cons.inj same).1
  | letter known others =>
      obtain ⟨noUnit, -⟩ := exists_letterEscape known
      refine .inl fun rest => ?_
      rw [List.cons_append, List.cons_append, readSecondHalf]
      · rfl
      · exact List.cons_ne_nil _ _
      · exact fun _ same => absurd (List.cons.inj same).1 noUnit
  | @unit first second third fourth written areDigits others =>
      obtain ⟨low, read⟩ := exists_hexUnit areDigits
      by_cases isLow : isLowSurrogate low = true
      · refine .inr ⟨surrogatePair high low, written, others, ?_, fun rest => ?_⟩
        · simp only [List.length_cons]
          omega
        · simp only [List.cons_append, readSecondHalf, read, if_pos isLow]
      · refine .inl fun rest => ?_
        simp only [List.cons_append, readSecondHalf, read, if_neg isLow]
        rfl

/-- What a written text stands for does not depend on what stands behind its closing quote. -/
theorem exists_decoded {written : List Char} (isQuoted : IsQuoted written) :
    ∃ decoded : Option (List Char), ∀ rest,
      (readText (written ++ '"' :: rest)).toOption =
        decoded.map fun characters => (characters, rest) := by
  -- A surrogate pair takes two escapes, so the induction is on the length.
  induction size : written.length using Nat.strongRecOn generalizing written with
  | ind bound shorter =>
  have behind {escape others : List Char} {character : Char} (isQuoted : IsQuoted others)
      (less : others.length < bound)
      (read : ∀ rest, readEscape (escape ++ '"' :: rest) =
        .ok (character, others ++ '"' :: rest)) :
      ∃ decoded : Option (List Char), ∀ rest,
        (readText ('\\' :: (escape ++ '"' :: rest))).toOption =
          decoded.map fun characters => (characters, rest) := by
    obtain ⟨decoded, settled⟩ := shorter _ less isQuoted rfl
    refine ⟨decoded.map (character :: ·), fun rest => ?_⟩
    rw [readText_behindEscape, read]
    change behindCharacter character (readText (others ++ '"' :: rest)).toOption = _
    rw [settled]
    cases decoded <;> rfl
  have halted {escape : List Char}
      (halted : ∀ rest, (readEscape (escape ++ '"' :: rest)).toOption = none) :
      ∃ decoded : Option (List Char), ∀ rest,
        (readText ('\\' :: (escape ++ '"' :: rest))).toOption =
          decoded.map fun characters => (characters, rest) :=
    ⟨none, fun rest => by rw [readText_behindEscape, halted]; rfl⟩
  cases isQuoted with
  | nil => exact ⟨some [], fun rest => by rw [List.nil_append, readText]; rfl⟩
  | @plain character written printed noQuote noBackslash others =>
      obtain ⟨decoded, settled⟩ := shorter _ (by rw [← size]; simp) others rfl
      refine ⟨decoded.map (character :: ·), fun rest => ?_⟩
      rw [List.cons_append, readText_plain printed noQuote noBackslash, settled]
      cases decoded <;> rfl
  | letter known others =>
      obtain ⟨noUnit, character, escaped⟩ := exists_letterEscape known
      exact behind others (by rw [← size]; simp only [List.length_cons]; omega)
        fun rest => readEscape_letter noUnit escaped _
  | @unit first second third fourth written areDigits others =>
      obtain ⟨unit, read⟩ := exists_hexUnit areDigits
      simp only [List.length_cons] at size
      have escape (rest : List Char) :
          readEscape ('u' :: first :: second :: third :: fourth :: (written ++ '"' :: rest)) =
            if isLowSurrogate unit then .error (.behind .loneSurrogate (written ++ '"' :: rest))
            else if isHighSurrogate unit then readSecondHalf unit (written ++ '"' :: rest)
            else .ok (Char.ofNat unit, written ++ '"' :: rest) := by
        rw [readEscape, read]
      by_cases isLow : isLowSurrogate unit = true
      · refine halted fun rest => ?_
        simp only [List.cons_append, escape, if_pos isLow]
        rfl
      by_cases isHigh : isHighSurrogate unit = true
      · rcases readSecondHalf_quoted unit others with
          halts | ⟨character, after, isQuoted, less, reads⟩
        · refine halted fun rest => ?_
          simp only [List.cons_append, escape, if_neg isLow, if_pos isHigh, halts]
        · refine @behind _ after character isQuoted (by omega) fun rest => ?_
          simp only [List.cons_append, escape, if_neg isLow, if_pos isHigh, reads]
      · refine @behind _ written (.ofNat unit) others (by omega) fun rest => ?_
        simp only [List.cons_append, escape, if_neg isLow, if_neg isHigh]

/-- The characters that a written text stands for, if its surrogates come in pairs. -/
def decoded? (written : List Char) : Option (List Char) :=
  (readText (written ++ ['"'])).toOption.map Prod.fst

theorem readText_quoted {written : List Char} (isQuoted : IsQuoted written) (rest : List Char) :
    (readText (written ++ '"' :: rest)).toOption =
      (decoded? written).map fun characters => (characters, rest) := by
  obtain ⟨decoded, settled⟩ := exists_decoded isQuoted
  rw [decoded?, settled, settled]
  cases decoded <;> rfl

/-! ### Characters that stand for themselves -/

section Plain

variable {written : List Char}
  (plain : ∀ character ∈ written, 0x20 ≤ character.toNat ∧ character ≠ '"' ∧ character ≠ '\\')
include plain

theorem isQuoted_of_plain : IsQuoted written := by
  induction written with
  | nil => exact .nil
  | cons character written ih =>
      obtain ⟨⟨printed, noQuote, noBackslash⟩, others⟩ := List.forall_mem_cons.mp plain
      exact .plain printed noQuote noBackslash (ih others)

theorem decoded?_plain : decoded? written = some written := by
  have read : (readText (written ++ ['"'])).toOption = some (written, []) := by
    induction written with
    | nil => rw [List.nil_append, readText]; rfl
    | cons character written ih =>
        obtain ⟨⟨printed, noQuote, noBackslash⟩, others⟩ := List.forall_mem_cons.mp plain
        rw [List.cons_append, readText_plain printed noQuote noBackslash, ih others]
        rfl
  rw [decoded?, read]
  rfl

end Plain

end SnippetSandbox.Json
