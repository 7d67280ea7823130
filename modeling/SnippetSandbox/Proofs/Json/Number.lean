import SnippetSandbox.Json.Number

/-!
# Written numbers are read back

The digits of a number of 64 bits are read as that number when nothing behind
them could belong to it.  While they are read, the number that they make so far
never exceeds the one that all of them make.
-/

namespace SnippetSandbox.Json

open Text

/-- No digit, point or exponent stands at the front of what follows a number. -/
def EndsNumber (rest : List Char) : Prop :=
  ∀ character, rest.head? = some character →
    character.isDigit = false ∧ character ≠ '.' ∧ character ≠ 'e' ∧ character ≠ 'E'

theorem le_numberFrom (start : Nat) (written : List Char) : start ≤ numberFrom start written := by
  induction written generalizing start with
  | nil => exact Nat.le_refl _
  | cons character written ih =>
      calc
        start ≤ 10 * start + digitValue character := by omega
        _ ≤ numberFrom start (character :: written) := ih _

/-- Digits are taken up to their end as long as they make a number of 64 bits. -/
theorem readSignificand_digits {written rest : List Char} {start : Nat}
    (areDigits : written.all Char.isDigit = true) (ends : EndsNumber rest)
    (fits : numberFrom start written ≤ largestNatural) :
    readSignificand start (written ++ rest) = (numberFrom start written, rest) := by
  induction written generalizing start with
  | nil =>
      cases rest with
      | nil => rfl
      | cons character rest =>
          have noDigit := (ends character rfl).1
          simp [readSignificand, noDigit, numberFrom]
  | cons character written ih =>
      obtain ⟨isDigit, others⟩ :
          character.isDigit = true ∧ written.all Char.isDigit = true := by
        simpa using areDigits
      have larger : 10 * start + digitValue character ≤ largestNatural :=
        Nat.le_trans (le_numberFrom _ written) fits
      rw [List.cons_append, readSignificand, if_pos isDigit]
      dsimp only
      rw [if_pos larger, ih others fits]
      rfl

theorem head_digits {value : Nat} (positive : value ≠ 0) : (digits value).head? ≠ some '0' := by
  induction value using Nat.strongRecOn with
  | ind value ih =>
      rw [digits]
      split
      next small =>
        have all : ∀ small < 10, small ≠ 0 → some (digitChar small) ≠ some '0' := by decide
        exact all value small positive
      next large =>
        have front := ih (value / 10) (by omega) (by omega)
        cases written : digits (value / 10) with
        | nil => exact absurd written (digits_ne_nil _)
        | cons first others =>
            rw [written] at front
            exact front

theorem readAfterWhole_ends {rest : List Char} (ends : EndsNumber rest) (value : Nat) :
    readAfterWhole false value rest = .ok (.natural value, rest) := by
  cases rest with
  | nil => rfl
  | cons character rest =>
      obtain ⟨noDigit, noPoint, noSmall, noLarge⟩ := ends character rfl
      unfold readAfterWhole
      split
      next => rfl
      next same => exact absurd (List.cons.inj same).1 noPoint
      next same => exact absurd (List.cons.inj same).1 noSmall
      next same => exact absurd (List.cons.inj same).1 noLarge
      next same =>
        obtain ⟨rfl, rfl⟩ := List.cons.inj same
        rw [if_neg (by simp [noDigit])]
        rfl

/-- The digits of a number of 64 bits are read as that number. -/
theorem readNumber_digits {value : Nat} {rest : List Char} (fits : value ≤ largestNatural)
    (ends : EndsNumber rest) :
    readNumber false (digits value ++ rest) = .ok (.natural value, rest) := by
  by_cases zero : value = 0
  · subst zero
    have noDigit : (rest.head?.map Char.isDigit).getD false = false := by
      cases rest with
      | nil => rfl
      | cons character rest => exact (ends character rfl).1
    simp [digits, digitChar, readNumber, noDigit, readAfterWhole_ends ends]
  · have whole := number_digits value
    have areDigits := all_isDigit_digits value
    have noZero := head_digits zero
    cases written : digits value with
    | nil => exact absurd written (digits_ne_nil value)
    | cons first others =>
        rw [written] at whole areDigits noZero
        obtain ⟨isDigit, othersDigits⟩ :
            first.isDigit = true ∧ others.all Char.isDigit = true := by
          simpa using areDigits
        have together : numberFrom (digitValue first) others = value := by
          simpa [number, numberFrom] using whole
        rw [List.cons_append, readNumber, if_pos isDigit,
          readSignificand_digits othersDigits ends (by omega), together]
        · exact readAfterWhole_ends ends value
        · intro same
          exact noZero (by rw [same]; rfl)

end SnippetSandbox.Json
