import SnippetSandbox.Proofs.Json.Delimited
import SnippetSandbox.Proofs.Json.Number

/-!
# Where a number ends

A number ends in front of a gap, a comma or a closing bracket.  The reader that takes its
value and the one that only passes over it come to the same end, and what stands behind a
number has no part in its value.
-/

namespace SnippetSandbox.Json

open Text (digitValue)

/-! ## What stands behind a number -/

def EndsToken (rest : List Char) : Prop :=
  ∀ character, rest.head? = some character →
    isGap character = true ∨ character ∈ [',', ']', '\x7d']

theorem ne_of_endsToken {character : Char} {rest : List Char} (ends : EndsToken rest)
    (front : rest.head? = some character) :
    character.isDigit = false ∧ character ∉ ['.', 'e', 'E', '+', '-'] := by
  have all : ∀ character ∈ [' ', '\n', '\r', '\t', ',', ']', '\x7d'],
      character.isDigit = false ∧ character ∉ ['.', 'e', 'E', '+', '-'] := by simp
  refine all character ?_
  rcases ends character front with isGap | isMark
  · simp only [Json.isGap, Bool.or_eq_true, decide_eq_true_eq] at isGap
    rcases isGap with ((rfl | rfl) | rfl) | rfl <;> decide
  · exact List.mem_append_right [' ', '\n', '\r', '\t'] isMark

/-- Two texts in a row begin like the first of them, or else like the second. -/
theorem front_append {property : Char → Prop} {text rest : List Char}
    (front : ∀ character, text.head? = some character → property character)
    (frontRest : ∀ character, rest.head? = some character → property character) :
    ∀ character, (text ++ rest).head? = some character → property character := by
  cases text with
  | nil => exact frontRest
  | cons first others => exact front

/-- A text begins with a digit, or nothing in front of it is one. -/
theorem digit_or_noDigit (text : List Char) :
    (∃ character others, text = character :: others ∧ character.isDigit = true) ∨
      ∀ character, text.head? = some character → character.isDigit = false := by
  cases text with
  | nil => exact .inr nofun
  | cons character others =>
      cases isDigit : character.isDigit with
      | true => exact .inl ⟨character, others, rfl, isDigit⟩
      | false =>
          refine .inr ?_
          rintro _ ⟨⟩
          exact isDigit

/-- What a reader gives back when more stands behind what it left. -/
def followed {Made : Type} (rest : List Char) (read : Except Halt (Made × List Char)) :
    Option (Made × List Char) :=
  read.toOption.map fun found => (found.1, found.2 ++ rest)

section Behind

variable {rest : List Char} (ends : EndsToken rest)
include ends

theorem skipDigits_behind (text : List Char) :
    skipDigits (text ++ rest) = skipDigits text ++ rest := by
  have none : skipDigits rest = rest := by
    cases rest with
    | nil => rfl
    | cons character rest =>
        exact List.dropWhile_cons_of_neg (by simp [(ne_of_endsToken ends rfl).1])
  rw [skipDigits, List.dropWhile_append]
  split
  next all =>
    rw [← skipDigits, none, skipDigits, List.isEmpty_iff.mp all, List.nil_append]
  next => rfl

theorem readSignificand_behind (start : Nat) (text : List Char) :
    readSignificand start (text ++ rest) =
      ((readSignificand start text).1, (readSignificand start text).2 ++ rest) := by
  induction text generalizing start with
  | nil =>
      cases rest with
      | nil => rfl
      | cons character rest => simp [readSignificand, (ne_of_endsToken ends rfl).1]
  | cons character text ih =>
      simp only [List.cons_append, readSignificand]
      split
      next =>
        split
        next => exact ih _
        next => rfl
      next => rfl

theorem readExponentDigits_behind (start : Nat) (text : List Char) :
    readExponentDigits start (text ++ rest) =
      ((readExponentDigits start text).1, (readExponentDigits start text).2.1,
        (readExponentDigits start text).2.2 ++ rest) := by
  induction text generalizing start with
  | nil =>
      cases rest with
      | nil => rfl
      | cons character rest => simp [readExponentDigits, (ne_of_endsToken ends rfl).1]
  | cons character text ih =>
      simp only [List.cons_append, readExponentDigits]
      split
      next =>
        split
        next => exact ih _
        next => rfl
      next => rfl

omit ends in
theorem floating_behind (isNegative : Bool) (significand : Nat) (exponent : Int)
    (text : List Char) :
    (floating isNegative significand exponent (text ++ rest)).toOption =
      followed rest (floating isNegative significand exponent text) := by
  unfold floating
  split <;> rfl

theorem exponentSign_behind (text : List Char) :
    exponentSign (text ++ rest) = ((exponentSign text).1, (exponentSign text).2 ++ rest) := by
  have other {character : Char} {text : List Char} (noPlus : character ≠ '+')
      (noMinus : character ≠ '-') : exponentSign (character :: text) = (false, character :: text) := by
    rw [exponentSign]
    · rintro following same
      exact noPlus (List.cons.inj same).1
    · rintro following same
      exact noMinus (List.cons.inj same).1
  cases text with
  | nil =>
      cases rest with
      | nil => rfl
      | cons character rest =>
          have noSign := (ne_of_endsToken ends rfl).2
          exact other (by rintro rfl; exact noSign (by decide))
            (by rintro rfl; exact noSign (by decide))
  | cons character text =>
      by_cases plus : character = '+'
      · rw [plus]; rfl
      · by_cases minus : character = '-'
        · rw [minus]; rfl
        · rw [List.cons_append, other plus minus, other plus minus]; rfl

omit ends in
theorem readExponent_noDigit {isNegative below : Bool} {significand : Nat} {start : Int}
    {text behind : List Char} (signed : exponentSign text = (below, behind))
    (noDigit : ∀ character, behind.head? = some character → character.isDigit = false) :
    (readExponent isNegative significand start text).toOption = none := by
  rw [readExponent, signed]
  cases behind with
  | nil => rfl
  | cons character behind =>
      dsimp only
      rw [if_neg (by simp [noDigit character rfl])]
      rfl

theorem readExponent_behind (isNegative : Bool) (significand : Nat) (start : Int)
    (text : List Char) :
    (readExponent isNegative significand start (text ++ rest)).toOption =
      followed rest (readExponent isNegative significand start text) := by
  have further := exponentSign_behind ends text
  generalize signed : exponentSign text = signedText at further
  obtain ⟨below, behind⟩ := signedText
  rcases digit_or_noDigit behind with ⟨character, others, rfl, isDigit⟩ | noDigit
  · have digits := readExponentDigits_behind ends (digitValue character) others
    rw [readExponent, readExponent, further, signed]
    dsimp only [List.cons_append]
    rw [if_pos isDigit, if_pos isDigit, digits]
    dsimp only
    split
    · split
      · rfl
      · rw [skipDigits_behind ends]
        exact floating_behind _ _ _ _
    · exact floating_behind _ _ _ _
  · rw [followed, readExponent_noDigit signed noDigit, readExponent_noDigit further]
    · rfl
    · exact front_append noDigit fun character front => (ne_of_endsToken ends front).1

omit ends in
theorem readPower_exponent {letter : Char} (isLetter : letter = 'e' ∨ letter = 'E')
    (isNegative : Bool) (significand : Nat) (exponent : Int) (text : List Char) :
    readPower isNegative significand exponent (letter :: text) =
      readExponent isNegative significand exponent text := by
  rcases isLetter with rfl | rfl <;> rfl

omit ends in
theorem readPower_ends {text : List Char}
    (noLetter : ∀ character, text.head? = some character → ¬ (character = 'e' ∨ character = 'E'))
    (isNegative : Bool) (significand : Nat) (exponent : Int) :
    readPower isNegative significand exponent text =
      floating isNegative significand exponent text := by
  rw [readPower]
  · rintro others rfl
    exact noLetter 'e' rfl (.inl rfl)
  · rintro others rfl
    exact noLetter 'E' rfl (.inr rfl)

theorem noLetter_of_endsToken {character : Char} (front : rest.head? = some character) :
    ¬ (character = 'e' ∨ character = 'E') := by
  have others := (ne_of_endsToken ends front).2
  rintro (rfl | rfl) <;> exact others (by decide)

theorem readPower_behind (isNegative : Bool) (significand : Nat) (exponent : Int)
    (text : List Char) :
    (readPower isNegative significand exponent (text ++ rest)).toOption =
      followed rest (readPower isNegative significand exponent text) := by
  by_cases noLetter :
      ∀ character, text.head? = some character → ¬ (character = 'e' ∨ character = 'E')
  · rw [readPower_ends noLetter, readPower_ends, floating_behind]
    exact front_append noLetter fun _ front => noLetter_of_endsToken ends front
  · push Not at noLetter
    obtain ⟨letter, front, isLetter⟩ := noLetter
    obtain ⟨others, rfl⟩ := List.head?_eq_some_iff.mp front
    rw [List.cons_append, readPower_exponent isLetter, readPower_exponent isLetter]
    exact readExponent_behind ends _ _ _ _

omit ends in
theorem readFraction_noDigit {isNegative : Bool} {significand : Nat} {exponent : Int}
    {text : List Char}
    (noDigit : ∀ character, text.head? = some character → character.isDigit = false) :
    (readFraction isNegative significand exponent text).toOption = none := by
  cases text with
  | nil => rfl
  | cons character text =>
      rw [readFraction, if_neg (by simp [noDigit character rfl])]
      rfl

theorem readFraction_behind (isNegative : Bool) (significand : Nat) (exponent : Int)
    (text : List Char) :
    (readFraction isNegative significand exponent (text ++ rest)).toOption =
      followed rest (readFraction isNegative significand exponent text) := by
  rcases digit_or_noDigit text with ⟨character, others, rfl, isDigit⟩ | noDigit
  · have digits := readSignificand_behind ends significand (character :: others)
    rw [List.cons_append] at digits
    have places (taken : List Char) :
        (character :: (others ++ rest)).length - (taken ++ rest).length =
          (character :: others).length - taken.length := by
      simp only [List.length_append, List.length_cons]
      omega
    rw [List.cons_append, readFraction, readFraction, if_pos isDigit, if_pos isDigit, digits]
    dsimp only
    rw [places, skipDigits_behind ends]
    exact readPower_behind ends _ _ _ _
  · rw [followed, readFraction_noDigit noDigit, readFraction_noDigit]
    · rfl
    · exact front_append noDigit fun _ front => (ne_of_endsToken ends front).1

omit ends in
theorem whole_behind (isNegative : Bool) (value : Nat) (text : List Char) :
    (whole isNegative value (text ++ rest)).toOption =
      followed rest (whole isNegative value text) := by
  unfold whole
  split
  · split
    · exact floating_behind _ _ _ _
    · rfl
  · rfl

omit ends in
theorem readAfterWhole_whole {text : List Char} (endsNumber : EndsNumber text)
    (isNegative : Bool) (value : Nat) :
    readAfterWhole isNegative value text = whole isNegative value text := by
  cases text with
  | nil => rfl
  | cons character text =>
      obtain ⟨noDigit, noPoint, noSmall, noLarge⟩ := endsNumber character rfl
      rw [readAfterWhole, if_neg (by simp [noDigit])]
      · exact noPoint
      · exact noSmall
      · exact noLarge

omit ends in
theorem readAfterWhole_exponent {letter : Char} (isLetter : letter = 'e' ∨ letter = 'E')
    (isNegative : Bool) (value : Nat) (text : List Char) :
    readAfterWhole isNegative value (letter :: text) =
      readExponent isNegative value 0 text := by
  rcases isLetter with rfl | rfl <;> rfl

/-- Read what follows digits that have no place in the significand. -/
def readAfterDigits (isNegative : Bool) (value : Nat) (places : Int) (text : List Char) :
    Except Halt (Number × List Char) :=
  if text.head? = some '.' then readFraction isNegative value places text.tail
  else readPower isNegative value places text

omit ends in
theorem readAfterWhole_digit {character : Char} (isDigit : character.isDigit = true)
    (isNegative : Bool) (value : Nat) (text : List Char) :
    readAfterWhole isNegative value (character :: text) =
      readAfterDigits isNegative value
        ((character :: text).length - (skipDigits (character :: text)).length)
        (skipDigits (character :: text)) := by
  rw [readAfterWhole, if_pos isDigit]
  · dsimp only
    split
    next fraction faced => rw [readAfterDigits, faced, List.head?_cons, if_pos rfl, List.tail_cons]
    next noPoint =>
      rw [readAfterDigits, if_neg]
      intro front
      obtain ⟨fraction, faced⟩ := List.head?_eq_some_iff.mp front
      exact noPoint fraction faced
  all_goals
    rintro rfl
    cases isDigit

theorem readAfterDigits_behind (isNegative : Bool) (value : Nat) (places : Int)
    (text : List Char) :
    (readAfterDigits isNegative value places (text ++ rest)).toOption =
      followed rest (readAfterDigits isNegative value places text) := by
  have noPoint : rest.head? ≠ some '.' := fun front => (ne_of_endsToken ends front).2 (by decide)
  unfold readAfterDigits
  cases text with
  | nil =>
      rw [List.nil_append, if_neg noPoint, if_neg (by simp)]
      exact readPower_behind ends _ _ _ []
  | cons character text =>
      rw [List.cons_append, List.head?_cons, List.head?_cons]
      split
      · exact readFraction_behind ends _ _ _ _
      · exact readPower_behind ends _ _ _ (character :: text)

/-- What follows the digits of a whole part begins with a point, a letter or a further digit,
or the number ends. -/
theorem readAfterWhole_behind (isNegative : Bool) (value : Nat) (text : List Char) :
    (readAfterWhole isNegative value (text ++ rest)).toOption =
      followed rest (readAfterWhole isNegative value text) := by
  by_cases endsNumber : EndsNumber text
  · rw [readAfterWhole_whole endsNumber, readAfterWhole_whole, whole_behind]
    refine front_append endsNumber fun character front => ?_
    have others := (ne_of_endsToken ends front).2
    refine ⟨(ne_of_endsToken ends front).1, ?_, ?_, ?_⟩ <;> rintro rfl <;> exact others (by decide)
  · obtain ⟨character, others, rfl, kind⟩ : ∃ character others, text = character :: others ∧
        (character.isDigit = true ∨ character = '.' ∨ character = 'e' ∨ character = 'E') := by
      cases text with
      | nil => exact absurd nofun endsNumber
      | cons character others =>
          refine ⟨character, others, rfl, ?_⟩
          by_contra none
          simp only [not_or, Bool.not_eq_true] at none
          refine endsNumber ?_
          rintro _ ⟨⟩
          exact none
    rcases kind with isDigit | rfl | isLetter
    · have digits := skipDigits_behind ends (character :: others)
      have places (taken : List Char) :
          ((character :: (others ++ rest)).length : Int) - (taken ++ rest).length =
            (character :: others).length - taken.length := by
        simp only [List.length_append, List.length_cons]
        omega
      rw [List.cons_append] at digits ⊢
      rw [readAfterWhole_digit isDigit, readAfterWhole_digit isDigit, digits, places]
      exact readAfterDigits_behind ends _ _ _ _
    · exact readFraction_behind ends _ _ _ _
    · rw [List.cons_append, readAfterWhole_exponent isLetter, readAfterWhole_exponent isLetter]
      exact readExponent_behind ends _ _ _ _

omit ends in
theorem readNumber_noDigit {isNegative : Bool} {text : List Char}
    (noDigit : ∀ character, text.head? = some character → character.isDigit = false) :
    (readNumber isNegative text).toOption = none := by
  cases text with
  | nil => rfl
  | cons character text =>
      have other := noDigit character rfl
      rw [readNumber, if_neg (by simp [other])]
      · rfl
      · rintro rfl
        cases other

/-- What stands behind a number has no part in it. -/
theorem readNumber_behind (isNegative : Bool) (text : List Char) :
    (readNumber isNegative (text ++ rest)).toOption =
      followed rest (readNumber isNegative text) := by
  have noDigitBehind : ∀ character, rest.head? = some character → character.isDigit = false :=
    fun _ front => (ne_of_endsToken ends front).1
  rcases digit_or_noDigit text with ⟨character, others, rfl, isDigit⟩ | noDigit
  · by_cases zero : character = '0'
    · obtain rfl := zero
      rw [List.cons_append, readNumber, readNumber]
      rcases digit_or_noDigit others with ⟨further, more, rfl, isDigit⟩ | noDigit
      · simp [isDigit, followed, Except.toOption]
      · have alone {text : List Char}
            (noDigit : ∀ character, text.head? = some character → character.isDigit = false) :
            ¬ (text.head?.map Char.isDigit).getD false = true := by
          cases text with
          | nil => decide
          | cons first text => simp [noDigit first rfl]
        rw [if_neg (alone noDigit), if_neg (alone (front_append noDigit noDigitBehind))]
        exact readAfterWhole_behind ends _ _ _
    · rw [List.cons_append, readNumber, readNumber, if_pos isDigit, if_pos isDigit,
        readSignificand_behind ends]
      · exact readAfterWhole_behind ends _ _ _
      · exact zero
      · exact zero
  · rw [followed, readNumber_noDigit noDigit,
      readNumber_noDigit (front_append noDigit noDigitBehind)]
    rfl

end Behind

/-! ## The two readers come to the same end -/

theorem skipDigits_digit {character : Char} (isDigit : character.isDigit = true)
    (text : List Char) : skipDigits (character :: text) = skipDigits text :=
  List.dropWhile_cons_of_pos isDigit

theorem skipDigits_noDigit {text : List Char}
    (noDigit : ∀ character, text.head? = some character → character.isDigit = false) :
    skipDigits text = text := by
  cases text with
  | nil => rfl
  | cons character text => exact List.dropWhile_cons_of_neg (by simp [noDigit character rfl])

theorem skipDigits_readSignificand (start : Nat) (text : List Char) :
    skipDigits (readSignificand start text).2 = skipDigits text := by
  induction text generalizing start with
  | nil => rfl
  | cons character text ih =>
      rw [readSignificand]
      split
      next isDigit =>
        dsimp only
        split
        next => rw [ih, skipDigits_digit isDigit]
        next => rfl
      next => rfl

/-- An exponent ends behind its digits, or its digits go on behind one that is too many. -/
theorem readExponentDigits_end (start : Nat) (text : List Char) :
    skipDigits (readExponentDigits start text).2.2 = skipDigits text ∧
      ((readExponentDigits start text).2.1 = false →
        (readExponentDigits start text).2.2 = skipDigits text) := by
  induction text generalizing start with
  | nil => exact ⟨rfl, fun _ => rfl⟩
  | cons character text ih =>
      rw [readExponentDigits]
      split
      next isDigit =>
        rw [skipDigits_digit isDigit]
        dsimp only
        split
        next => exact ih _
        next => exact ⟨rfl, by simp⟩
      next noDigit => exact ⟨rfl, fun _ => (skipDigits_noDigit (by simpa using noDigit)).symm⟩

section SameEnd

variable {isNegative : Bool} {text rest : List Char} {number : Number}

theorem skipExponent_of_readExponent {significand : Nat} {start : Int}
    (read : readExponent isNegative significand start text = .ok (number, rest)) :
    skipExponent text = .ok rest := by
  generalize signed : exponentSign text = signedText
  obtain ⟨below, behind⟩ := signedText
  rcases digit_or_noDigit behind with ⟨character, others, rfl, isDigit⟩ | noDigit
  · obtain ⟨sameEnd, goesOn⟩ := readExponentDigits_end (digitValue character) others
    rw [readExponent, signed] at read
    dsimp only at read
    rw [if_pos isDigit] at read
    rw [skipExponent, signed]
    dsimp only
    rw [if_pos isDigit]
    generalize readExponentDigits (digitValue character) others = taken at read sameEnd goesOn
    obtain ⟨exponent, tooLarge, remaining⟩ := taken
    cases tooLarge with
    | false => rw [(floating_append read).1, ← goesOn rfl]
    | true =>
        dsimp only at read sameEnd
        rw [if_pos rfl] at read
        split at read
        · cases read
        · rw [(floating_append read).1, sameEnd]
  · have halted := @readExponent_noDigit isNegative below significand start _ _ signed noDigit
    rw [read] at halted
    cases halted

def skipPower (text : List Char) : Except Halt (List Char) :=
  match text with
  | 'e' :: rest | 'E' :: rest => skipExponent rest
  | _ => .ok text

theorem skipPower_of_readPower {significand : Nat} {exponent : Int}
    (read : readPower isNegative significand exponent text = .ok (number, rest)) :
    skipPower text = .ok rest := by
  unfold readPower at read
  split at read
  · exact skipExponent_of_readExponent read
  · exact skipExponent_of_readExponent read
  next noSmall noLarge =>
    rw [(floating_append read).1, skipPower]
    · exact noSmall
    · exact noLarge

theorem skipFraction_digit {character : Char} (isDigit : character.isDigit = true)
    (text : List Char) :
    skipFraction (character :: text) = skipPower (skipDigits (character :: text)) := by
  rw [skipFraction, if_pos isDigit]
  fun_cases skipPower (skipDigits (character :: text)) with
  | case1 => rfl
  | case2 => rfl
  | case3 behind noSmall noLarge =>
      split
      next => exact absurd rfl (noSmall _)
      next => exact absurd rfl (noLarge _)
      next => rfl

theorem skipFraction_of_readFraction {significand : Nat} {exponent : Int}
    (read : readFraction isNegative significand exponent text = .ok (number, rest)) :
    skipFraction text = .ok rest := by
  rcases digit_or_noDigit text with ⟨character, others, rfl, isDigit⟩ | noDigit
  · rw [readFraction, if_pos isDigit] at read
    dsimp only at read
    rw [skipDigits_readSignificand] at read
    rw [skipFraction_digit isDigit]
    exact skipPower_of_readPower read
  · have halted := @readFraction_noDigit isNegative significand exponent text noDigit
    rw [read] at halted
    cases halted

theorem skipAfterWhole_noPoint (noPoint : text.head? ≠ some '.') :
    skipAfterWhole text = skipPower text := by
  unfold skipAfterWhole
  split
  · exact absurd rfl noPoint
  · rfl
  · rfl
  next noSmall noLarge =>
    rw [skipPower]
    · exact noSmall
    · exact noLarge

theorem skipAfterWhole_of_readAfterDigits {value : Nat} {places : Int}
    (read : readAfterDigits isNegative value places text = .ok (number, rest)) :
    skipAfterWhole text = .ok rest := by
  rw [readAfterDigits] at read
  split at read
  next front =>
    obtain ⟨fraction, rfl⟩ := List.head?_eq_some_iff.mp front
    exact skipFraction_of_readFraction read
  next noPoint =>
    rw [skipAfterWhole_noPoint noPoint]
    exact skipPower_of_readPower read

theorem skipAfterWhole_of_readAfterWhole {value : Nat}
    (read : readAfterWhole isNegative value text = .ok (number, rest)) :
    skipAfterWhole (skipDigits text) = .ok rest := by
  rcases digit_or_noDigit text with ⟨character, others, rfl, isDigit⟩ | noDigit
  · rw [readAfterWhole_digit isDigit] at read
    exact skipAfterWhole_of_readAfterDigits read
  · rw [skipDigits_noDigit noDigit]
    by_cases point : text.head? = some '.'
    · obtain ⟨fraction, rfl⟩ := List.head?_eq_some_iff.mp point
      exact skipFraction_of_readFraction read
    · rw [skipAfterWhole_noPoint point]
      cases text with
      | nil => rw [(whole_append read).1]; rfl
      | cons character text =>
          by_cases isLetter : character = 'e' ∨ character = 'E'
          · rw [readAfterWhole_exponent isLetter] at read
            rw [← skipExponent_of_readExponent read]
            rcases isLetter with rfl | rfl <;> rfl
          · obtain ⟨noSmall, noLarge⟩ := not_or.mp isLetter
            have endsNumber : EndsNumber (character :: text) := by
              rintro _ ⟨⟩
              exact ⟨noDigit _ rfl, fun same => point (by rw [same]; rfl), noSmall, noLarge⟩
            rw [readAfterWhole_whole endsNumber] at read
            rw [(whole_append read).1, skipPower]
            · exact fun _ same => noSmall (List.cons.inj same).1
            · exact fun _ same => noLarge (List.cons.inj same).1

/-- A number that is read ends where one ends that is passed over. -/
theorem skipNumber_of_readNumber (read : readNumber isNegative text = .ok (number, rest)) :
    skipNumber text = .ok rest := by
  rcases digit_or_noDigit text with ⟨character, others, rfl, isDigit⟩ | noDigit
  · by_cases zero : character = '0'
    · obtain rfl := zero
      rw [readNumber] at read
      rw [skipNumber]
      split at read
      next => cases read
      next alone =>
        have noDigit : ∀ character, others.head? = some character → character.isDigit = false := by
          intro character front
          simpa [front] using alone
        rw [if_neg alone, ← skipDigits_noDigit noDigit]
        exact skipAfterWhole_of_readAfterWhole read
    · rw [readNumber, if_pos isDigit] at read
      · rw [skipNumber, if_pos isDigit, ← skipDigits_readSignificand (digitValue character)]
        · exact skipAfterWhole_of_readAfterWhole read
        · exact zero
      · exact zero
  · have halted := @readNumber_noDigit isNegative text noDigit
    rw [read] at halted
    cases halted

end SameEnd

/-! ## Written numbers -/

/-- One digit or more. -/
structure Digits where
  written : List Char
  areDigits : written.all Char.isDigit = true
  ne_nil : written ≠ []

/-- A power of ten behind its letter. -/
structure Exponent where
  letter : Char
  isLetter : letter = 'e' ∨ letter = 'E'
  sign : List Char
  isSign : sign ∈ [[], ['+'], ['-']]
  digits : Digits

/-- A number as it is written: no zero stands in front of another digit. -/
structure Numeral where
  isNegative : Bool
  whole : Digits
  noZero : whole.written.head? = some '0' → whole.written = ['0']
  fraction : Option Digits
  exponent : Option Exponent

/-- A fraction behind its point, if there is one. -/
def writtenFraction : Option Digits → List Char
  | some digits => '.' :: digits.written
  | none => []

/-- A power of ten, if there is one. -/
def writtenExponent : Option Exponent → List Char
  | some exponent => exponent.letter :: (exponent.sign ++ exponent.digits.written)
  | none => []

namespace Numeral

/-- The number without its sign. -/
def unsigned (numeral : Numeral) : List Char :=
  numeral.whole.written ++ (writtenFraction numeral.fraction ++ writtenExponent numeral.exponent)

def written (numeral : Numeral) : List Char :=
  if numeral.isNegative then '-' :: numeral.unsigned else numeral.unsigned

end Numeral

section Written

variable {rest : List Char}

theorem Digits.exists_cons (digits : Digits) : ∃ first others,
    digits.written = first :: others ∧ first.isDigit = true ∧ others.all Char.isDigit = true := by
  obtain ⟨first, others, shape⟩ := List.exists_cons_of_ne_nil digits.ne_nil
  have areDigits := digits.areDigits
  rw [shape, List.all_cons, Bool.and_eq_true] at areDigits
  exact ⟨first, others, shape, areDigits⟩

theorem skipDigits_written {written : List Char} (areDigits : written.all Char.isDigit = true)
    (noDigit : ∀ character, rest.head? = some character → character.isDigit = false) :
    skipDigits (written ++ rest) = rest := by
  induction written with
  | nil => exact skipDigits_noDigit noDigit
  | cons character written ih =>
      rw [List.all_cons, Bool.and_eq_true] at areDigits
      rw [List.cons_append, skipDigits_digit areDigits.1, ih areDigits.2]

variable (ends : EndsToken rest)
include ends

theorem skipExponent_written (exponent : Exponent) :
    skipExponent (exponent.sign ++ (exponent.digits.written ++ rest)) = .ok rest := by
  obtain ⟨first, others, shape, isDigit, areDigits⟩ := exponent.digits.exists_cons
  have noDigit : ∀ character, rest.head? = some character → character.isDigit = false :=
    fun _ front => (ne_of_endsToken ends front).1
  have unsigned : (exponentSign (exponent.sign ++ (exponent.digits.written ++ rest))).2 =
      first :: (others ++ rest) := by
    have isSign := exponent.isSign
    rw [shape]
    simp only [List.mem_cons, List.not_mem_nil, or_false] at isSign
    rcases isSign with none | plus | minus
    · rw [none, List.nil_append, List.cons_append, exponentSign]
      · rintro _ same
        rw [(List.cons.inj same).1] at isDigit
        cases isDigit
      · rintro _ same
        rw [(List.cons.inj same).1] at isDigit
        cases isDigit
    · rw [plus]; rfl
    · rw [minus]; rfl
  rw [skipExponent, unsigned]
  dsimp only
  rw [if_pos isDigit, skipDigits_written areDigits noDigit]

theorem skipPower_written (exponent : Option Exponent) :
    skipPower (writtenExponent exponent ++ rest) = .ok rest := by
  cases exponent with
  | none =>
      rw [writtenExponent, List.nil_append, skipPower]
      all_goals
        rintro _ rfl
        exact noLetter_of_endsToken ends rfl (by decide)
  | some exponent =>
      rw [writtenExponent, List.cons_append, List.append_assoc, ← skipExponent_written ends exponent]
      rcases exponent.isLetter with isLetter | isLetter <;> rw [isLetter] <;> rfl

theorem noDigit_writtenExponent (exponent : Option Exponent) :
    ∀ character, (writtenExponent exponent ++ rest).head? = some character →
      character.isDigit = false ∧ character ≠ '.' := by
  cases exponent with
  | none =>
      intro character front
      obtain ⟨noDigit, others⟩ := ne_of_endsToken ends front
      exact ⟨noDigit, by rintro rfl; exact others (by decide)⟩
  | some exponent =>
      rintro _ ⟨⟩
      rcases exponent.isLetter with isLetter | isLetter <;> rw [isLetter] <;> decide

theorem skipAfterWhole_written (fraction : Option Digits) (exponent : Option Exponent) :
    skipAfterWhole (writtenFraction fraction ++ (writtenExponent exponent ++ rest)) =
      .ok rest := by
  have behind := noDigit_writtenExponent ends exponent
  cases fraction with
  | none =>
      rw [writtenFraction, List.nil_append, skipAfterWhole_noPoint, skipPower_written ends]
      exact fun point => (behind _ point).2 rfl
  | some digits =>
      obtain ⟨first, others, shape, isDigit, areDigits⟩ := digits.exists_cons
      rw [writtenFraction, List.cons_append, skipAfterWhole, shape, List.cons_append,
        skipFraction_digit isDigit, skipDigits_digit isDigit,
        skipDigits_written areDigits fun _ front => (behind _ front).1, skipPower_written ends]

theorem noDigit_further (fraction : Option Digits) (exponent : Option Exponent) :
    ∀ character, (writtenFraction fraction ++ (writtenExponent exponent ++ rest)).head? =
      some character → character.isDigit = false := by
  cases fraction with
  | none => exact fun character front => (noDigit_writtenExponent ends exponent _ front).1
  | some digits =>
      rintro _ ⟨⟩
      rfl

theorem skipNumber_written (numeral : Numeral) :
    skipNumber (numeral.unsigned ++ rest) = .ok rest := by
  obtain ⟨first, others, shape, isDigit, areDigits⟩ := numeral.whole.exists_cons
  have noDigit := noDigit_further ends numeral.fraction numeral.exponent
  rw [Numeral.unsigned, List.append_assoc, List.append_assoc, shape, List.cons_append]
  by_cases zero : first = '0'
  · have alone := numeral.noZero (by rw [shape, zero]; rfl)
    rw [shape] at alone
    obtain ⟨rfl, rfl⟩ := List.cons.inj alone
    rw [List.nil_append, skipNumber, if_neg, skipAfterWhole_written ends]
    generalize writtenFraction _ ++ _ = behind at noDigit ⊢
    cases behind with
    | nil => decide
    | cons character behind => simp [noDigit character rfl]
  · rw [skipNumber, if_pos isDigit, skipDigits_written areDigits noDigit,
      skipAfterWhole_written ends]
    exact zero

end Written

/-- A written number is read to its end, if it can be read, and what stands behind it has no
part in it. -/
theorem readNumber_written (isNegative : Bool) (numeral : Numeral) {rest : List Char}
    (ends : EndsToken rest) :
    (readNumber isNegative (numeral.unsigned ++ rest)).toOption =
      (readNumber isNegative numeral.unsigned).toOption.map fun found => (found.1, rest) := by
  rw [readNumber_behind ends, followed]
  cases read : readNumber isNegative numeral.unsigned with
  | error halt => rfl
  | ok found =>
      obtain ⟨number, remaining⟩ := found
      have none : EndsToken [] := nofun
      have skipped := skipNumber_written none numeral
      rw [List.append_nil, skipNumber_of_readNumber read] at skipped
      cases skipped
      rfl

end SnippetSandbox.Json
