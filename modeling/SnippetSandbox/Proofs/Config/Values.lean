import SnippetSandbox.Config.Printer
import SnippetSandbox.Config.Reader
import SnippetSandbox.Proofs.Json.Number
import SnippetSandbox.Proofs.Json.Text

/-!
# Written settings are read back

The value of every setting is read back from the way it is written, and the
reading stops where the value ends.  A gap in front of the value is passed over.
Only a number could be continued by what follows it.
-/

namespace SnippetSandbox.Config

open Json Text

/-- Elements with separators in between are the first one, and then each other one
behind its separator. -/
theorem intercalate_cons (separator first : List Char) (others : List (List Char)) :
    separator.intercalate (first :: others) =
      first ++ others.flatMap fun other => separator ++ other := by
  induction others generalizing first with
  | nil => simp [List.intercalate]
  | cons second others ih =>
      rw [List.intercalate_cons_cons, ih, List.flatMap_cons]
      simp

theorem readString_written {text rest : List Char} {value : String}
    (faced : skipGap text = encode value.toList ++ rest) :
    readString text = .ok (value, rest) := by
  have read := readText_encoded value.toList rest
  rw [readString, faced]
  simp only [encode, List.cons_append, List.append_assoc, List.nil_append, read,
    String.ofList_toList]

theorem readStrings_closed {first : Bool} {text rest : List Char}
    (next : nextElement first text = .ok (.closed rest)) :
    readStrings first text = .ok ([], rest) := by
  rw [readStrings]
  split
  next halted => cases next.symm.trans halted
  next closed =>
    cases next.symm.trans closed
    rfl
  next found => cases next.symm.trans found

theorem readStrings_element {first : Bool} {text element rest remaining : List Char}
    {value : String} {values : List String}
    (next : nextElement first text = .ok (.element element))
    (read : readString element = .ok (value, rest))
    (others : readStrings false rest = .ok (values, remaining)) :
    readStrings first text = .ok (value :: values, remaining) := by
  rw [readStrings]
  split
  next halted => cases next.symm.trans halted
  next closed => cases next.symm.trans closed
  next found =>
    cases next.symm.trans found
    split
    next halted => cases read.symm.trans halted
    next again =>
      cases read.symm.trans again
      rw [others]

/-- The other elements of a list, each behind the line of the one before. -/
def furtherLines (locations : List String) : List Char :=
  locations.flatMap fun location => ",\n    ".toList ++ encode location.toList

theorem readStrings_furtherLines (locations : List String) (rest : List Char) :
    readStrings false (furtherLines locations ++ "\n  ]".toList ++ rest) =
      .ok (locations, rest) := by
  induction locations with
  | nil => exact readStrings_closed rfl
  | cons location locations ih =>
      have line : furtherLines (location :: locations) ++ "\n  ]".toList ++ rest =
          ",\n    ".toList ++ encode location.toList ++
            (furtherLines locations ++ "\n  ]".toList ++ rest) := by
        simp [furtherLines]
      rw [line]
      exact readStrings_element rfl (readString_written rfl) ih

theorem readStringList_written {text rest : List Char} {locations : List String}
    (faced : skipGap text = writtenLocations locations ++ rest) :
    readStringList text = .ok (locations, rest) := by
  rw [readStringList, faced]
  cases locations with
  | nil => exact readStrings_closed rfl
  | cons location locations =>
      have lines : writtenLocations (location :: locations) ++ rest =
          "[\n    ".toList ++ encode location.toList ++
            (furtherLines locations ++ "\n  ]".toList ++ rest) := by
        simp [writtenLocations, locationLines, intercalate_cons, furtherLines,
          List.flatMap_map]
      rw [lines]
      exact readStrings_element rfl (readString_written rfl)
        (readStrings_furtherLines locations rest)

theorem readBool_written {text rest : List Char} {flag : Bool}
    (faced : skipGap text = writtenFlag flag ++ rest) : readBool text = .ok (flag, rest) := by
  rw [readBool, faced]
  cases flag <;> rfl

theorem readMode_written {text rest : List Char} {mode : Mode}
    (faced : skipGap text = encode mode.name.toList ++ rest) :
    readMode text = .ok (mode, rest) := by
  have read := readText_encoded mode.name.toList rest
  rw [readMode, faced]
  simp only [encode, List.cons_append, List.append_assoc, List.nil_append, read, modeOfText,
    String.ofList_toList, Mode.ofName?_name]

theorem readBounded_written {text rest : List Char} {expected : String} {bound value : Nat}
    (faced : skipGap text = digits value ++ rest) (ends : EndsNumber rest)
    (fits : value ≤ largestNatural) (small : value < bound) :
    readBounded expected bound text = .ok (value, rest) := by
  have read := readNumber_digits fits ends
  have areDigits := all_isDigit_digits value
  rw [readBounded, faced]
  cases written : digits value with
  | nil => exact absurd written (digits_ne_nil value)
  | cons first others =>
      rw [written] at read areDigits
      have isDigit : first.isDigit = true := by
        rw [List.all_cons, Bool.and_eq_true] at areDigits
        exact areDigits.1
      have noSign : first ≠ '-' := by
        rintro rfl
        cases isDigit
      rw [List.cons_append] at read ⊢
      split
      next empty => cases empty
      next signed => exact absurd (List.cons.inj signed).1 noSign
      next same =>
        obtain ⟨rfl, rfl⟩ := List.cons.inj same
        rw [if_pos isDigit, read]
        simp only [boundedNumber, if_pos small]

end SnippetSandbox.Config
