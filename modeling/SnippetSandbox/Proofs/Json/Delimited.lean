import Mathlib.Data.List.Basic
import SnippetSandbox.Json.Skip
import SnippetSandbox.Proofs.Json.Text

/-!
# What has been read stays read

A reader that came to the end of a value does not look at what follows it, so
more text behind the document changes nothing but the rest.  Brackets and quotes
end a value by themselves.  Only a number has its end where something else
begins, and there the reader must have seen that something.
-/

namespace SnippetSandbox.Json

open Text (digitValue)

theorem skipGap_append {text rest : List Char} {character : Char}
    (faced : skipGap text = character :: rest) (more : List Char) :
    skipGap (text ++ more) = character :: (rest ++ more) := by
  rw [skipGap] at faced ⊢
  rw [List.dropWhile_append, faced]
  rfl

theorem skipDigits_append {text : List Char} (goesOn : skipDigits text ≠ [])
    (more : List Char) : skipDigits (text ++ more) = skipDigits text ++ more := by
  rw [skipDigits] at goesOn ⊢
  rw [List.dropWhile_append, if_neg (by simpa using goesOn), skipDigits]

theorem readLetters_append {letters text rest : List Char}
    (read : readLetters letters text = .ok rest) (more : List Char) :
    readLetters letters (text ++ more) = .ok (rest ++ more) := by
  induction letters generalizing text with
  | nil =>
      obtain rfl : text = rest := by simpa [readLetters] using read
      rfl
  | cons letter letters ih =>
      cases text with
      | nil => cases read
      | cons character others =>
          rw [readLetters] at read
          rw [List.cons_append, readLetters]
          split at read
          next same => rw [if_pos same, ih read]
          next => cases read

/-! ### Texts -/

theorem readHexUnit_append {text rest : List Char} {unit : Nat}
    (read : readHexUnit text = .ok (unit, rest)) (more : List Char) :
    readHexUnit (text ++ more) = .ok (unit, rest ++ more) := by
  unfold readHexUnit at read
  split at read
  next first second third fourth others =>
    split at read
    next known =>
      cases read
      simp only [List.cons_append, readHexUnit, known]
    next => cases read
  next => cases read

theorem readSecondHalf_append {text rest : List Char} {high : Nat} {character : Char}
    (read : readSecondHalf high text = .ok (character, rest)) (more : List Char) :
    readSecondHalf high (text ++ more) = .ok (character, rest ++ more) := by
  unfold readSecondHalf at read
  split at read
  case h_3 digits =>
    split at read
    next => cases read
    next low remaining unitRead =>
      rw [List.cons_append, List.cons_append, readSecondHalf, readHexUnit_append unitRead more]
      split at read
      next isLow =>
        simp only [Except.ok.injEq, Prod.mk.injEq] at read
        obtain ⟨rfl, rfl⟩ := read
        simp only [if_pos isLow]
      next => cases read
  all_goals cases read

theorem readEscape_append {text rest : List Char} {character : Char}
    (read : readEscape text = .ok (character, rest)) (more : List Char) :
    readEscape (text ++ more) = .ok (character, rest ++ more) := by
  unfold readEscape at read
  split at read
  next => cases read
  next digits =>
    split at read
    next => cases read
    next unit remaining unitRead =>
      rw [List.cons_append, readEscape, readHexUnit_append unitRead more]
      split at read
      next => cases read
      next noLow =>
        simp only [if_neg noLow]
        split at read
        next isHigh =>
          simp only [if_pos isHigh]
          exact readSecondHalf_append read more
        next noHigh =>
          cases read
          simp only [if_neg noHigh]
  next letter others noCode =>
    split at read
    next known =>
      cases read
      rw [List.cons_append, readEscape, known]
      exact noCode
    next => cases read

theorem readText_append {text characters rest : List Char}
    (read : readText text = .ok (characters, rest)) (more : List Char) :
    readText (text ++ more) = .ok (characters, rest ++ more) := by
  fun_induction readText text generalizing characters with
  | case1 => cases read
  | case2 remaining =>
      cases read
      rw [List.cons_append, readText]
  | case3 => cases read
  | case4 => cases read
  | case5 escape character remaining escapeRead others last textRead ih =>
      cases read
      exact readText_escape (readEscape_append escapeRead more) (ih textRead)
  | case6 => cases read
  | case7 => cases read
  | case8 character remaining noQuote noBackslash printed others last textRead ih =>
      cases read
      rw [List.cons_append, readText, if_neg printed, ih textRead]
      · exact noQuote
      · exact noBackslash

theorem skipText_append {text rest : List Char} (read : skipText text = .ok rest)
    (more : List Char) : skipText (text ++ more) = .ok (rest ++ more) := by
  fun_induction skipText text with
  | case1 => cases read
  | case2 remaining =>
      cases read
      rw [List.cons_append, skipText]
  | case3 => cases read
  | case4 => cases read
  | case5 digits unit remaining unitRead ih =>
      have read := ih read
      rw [List.cons_append, List.cons_append, skipText]
      have unitRead := readHexUnit_append unitRead more
      split
      next halted => cases unitRead.symm.trans halted
      next found =>
        cases unitRead.symm.trans found
        exact read
  | case6 letter remaining noCode known ih =>
      rw [List.cons_append, List.cons_append, skipText, if_pos known]
      · exact ih read
      · exact noCode
  | case7 => cases read
  | case8 => cases read
  | case9 character remaining noQuote noBackslash noCode noEscape printed ih =>
      have plain : character ≠ '\\' := by
        rintro rfl
        cases remaining with
        | nil => exact noBackslash rfl rfl
        | cons letter others => exact noEscape letter others rfl rfl
      rw [List.cons_append, skipText, if_neg printed, ih read]
      · exact noQuote
      · exact fun same => absurd same plain
      · exact fun _ same => absurd same plain
      · exact fun _ _ same => absurd same plain

/-! ### Numbers -/

theorem readSignificand_append {text : List Char} {start : Nat}
    (ended : (readSignificand start text).2 ≠ []) (more : List Char) :
    readSignificand start (text ++ more) =
      ((readSignificand start text).1, (readSignificand start text).2 ++ more) := by
  induction text generalizing start with
  | nil => exact absurd rfl ended
  | cons character text ih =>
      simp only [List.cons_append, readSignificand] at ended ⊢
      split
      next isDigit =>
        rw [if_pos isDigit] at ended
        split
        next fits =>
          rw [if_pos fits] at ended
          exact ih ended
        next => rfl
      next => rfl

theorem readExponentDigits_append {text : List Char} {start : Nat}
    (ended : (readExponentDigits start text).2.2 ≠ []) (more : List Char) :
    readExponentDigits start (text ++ more) =
      ((readExponentDigits start text).1, (readExponentDigits start text).2.1,
        (readExponentDigits start text).2.2 ++ more) := by
  induction text generalizing start with
  | nil => exact absurd rfl ended
  | cons character text ih =>
      simp only [List.cons_append, readExponentDigits] at ended ⊢
      split
      next isDigit =>
        rw [if_pos isDigit] at ended
        split
        next fits =>
          rw [if_pos fits] at ended
          exact ih ended
        next => rfl
      next => rfl

/-- What is behind a floating-point number has been passed before it is made. -/
theorem floating_append {isNegative : Bool} {significand : Nat} {exponent : Int}
    {text rest : List Char} {value : Number}
    (read : floating isNegative significand exponent text = .ok (value, rest)) :
    rest = text ∧ ∀ more,
      floating isNegative significand exponent more = .ok (value, more) := by
  unfold floating at read
  split at read
  next scaled known =>
    cases read
    refine ⟨rfl, fun more => ?_⟩
    simp only [floating, known]
  next => cases read

theorem exponentSign_append {text rest : List Char} {below : Bool} {character : Char}
    (signed : exponentSign text = (below, character :: rest)) (more : List Char) :
    exponentSign (text ++ more) = (below, character :: (rest ++ more)) := by
  unfold exponentSign at signed
  split at signed
  next =>
    cases signed
    rfl
  next =>
    cases signed
    rfl
  next noPlus noMinus =>
    cases signed
    rw [List.cons_append, exponentSign]
    · rintro others same
      exact absurd (by rw [(List.cons.inj same).1]) (noPlus rest)
    · rintro others same
      exact absurd (by rw [(List.cons.inj same).1]) (noMinus rest)

theorem readExponent_append {isNegative : Bool} {significand : Nat} {start : Int}
    {text rest : List Char} {value : Number}
    (read : readExponent isNegative significand start text = .ok (value, rest))
    (ended : rest ≠ []) (more : List Char) :
    readExponent isNegative significand start (text ++ more) = .ok (value, rest ++ more) := by
  unfold readExponent at read
  split at read
  next => cases read
  next below character others signed =>
    rw [readExponent, exponentSign_append signed more]
    split at read
    next isDigit =>
      simp only [if_pos isDigit]
      have digits (goesOn : (readExponentDigits (digitValue character) others).2.2 ≠ []) :=
        readExponentDigits_append goesOn more
      generalize readExponentDigits (digitValue character) others = taken at read digits
      obtain ⟨exponent, tooLarge, remaining⟩ := taken
      cases tooLarge with
      | false =>
          obtain ⟨rfl, anyRest⟩ := floating_append read
          rw [digits ended]
          exact anyRest _
      | true =>
          simp only [if_true] at read
          split at read
          next => cases read
          next isSmall =>
            obtain ⟨rfl, anyRest⟩ := floating_append read
            have goesOn : remaining ≠ [] := by
              rintro rfl
              exact ended rfl
            rw [digits goesOn]
            simp only [if_true, if_neg isSmall, skipDigits_append ended]
            exact anyRest _
    next => cases read

theorem readPower_append {isNegative : Bool} {significand : Nat} {exponent : Int}
    {text rest : List Char} {value : Number}
    (read : readPower isNegative significand exponent text = .ok (value, rest))
    (ended : rest ≠ []) (more : List Char) :
    text ≠ [] ∧
      readPower isNegative significand exponent (text ++ more) = .ok (value, rest ++ more) := by
  unfold readPower at read
  split at read
  next => exact ⟨List.cons_ne_nil _ _, readExponent_append read ended more⟩
  next => exact ⟨List.cons_ne_nil _ _, readExponent_append read ended more⟩
  next noSmall noLarge =>
    obtain ⟨rfl, anyRest⟩ := floating_append read
    refine ⟨ended, ?_⟩
    cases rest with
    | nil => exact absurd rfl ended
    | cons character others =>
        rw [List.cons_append, readPower]
        · exact anyRest _
        · rintro _ same
          exact noSmall others (by rw [(List.cons.inj same).1])
        · rintro _ same
          exact noLarge others (by rw [(List.cons.inj same).1])

theorem readFraction_append {isNegative : Bool} {significand : Nat} {exponent : Int}
    {text rest : List Char} {value : Number}
    (read : readFraction isNegative significand exponent text = .ok (value, rest))
    (ended : rest ≠ []) (more : List Char) :
    readFraction isNegative significand exponent (text ++ more) = .ok (value, rest ++ more) := by
  unfold readFraction at read
  split at read
  next => cases read
  next character others =>
    split at read
    next isDigit =>
      rw [List.cons_append, readFraction, if_pos isDigit, ← List.cons_append]
      have digits (goesOn : (readSignificand significand (character :: others)).2 ≠ []) :=
        readSignificand_append goesOn more
      generalize readSignificand significand (character :: others) = taken at read digits
      obtain ⟨larger, remaining⟩ := taken
      obtain ⟨goesOn, power⟩ := readPower_append read ended more
      have unread : remaining ≠ [] := by
        rintro rfl
        exact goesOn rfl
      have places : (character :: others ++ more).length - (remaining ++ more).length =
          (character :: others).length - remaining.length := by
        simp only [List.length_append]
        omega
      rw [digits unread]
      simp only [places, skipDigits_append goesOn]
      exact power
    next => cases read

theorem whole_append {isNegative : Bool} {magnitude : Nat} {text rest : List Char}
    {value : Number} (read : whole isNegative magnitude text = .ok (value, rest)) :
    rest = text ∧ ∀ more, whole isNegative magnitude more = .ok (value, more) := by
  unfold whole at read
  split at read
  next negative =>
    split at read
    next wide =>
      obtain ⟨same, anyRest⟩ := floating_append read
      refine ⟨same, fun more => ?_⟩
      rw [whole, if_pos negative, if_pos wide, anyRest]
    next fits =>
      cases read
      refine ⟨rfl, fun more => ?_⟩
      rw [whole, if_pos negative, if_neg fits]
  next positive =>
    cases read
    refine ⟨rfl, fun more => ?_⟩
    rw [whole, if_neg positive]

theorem readAfterWhole_append {isNegative : Bool} {magnitude : Nat} {text rest : List Char}
    {value : Number} (read : readAfterWhole isNegative magnitude text = .ok (value, rest))
    (ended : rest ≠ []) (more : List Char) :
    text ≠ [] ∧
      readAfterWhole isNegative magnitude (text ++ more) = .ok (value, rest ++ more) := by
  unfold readAfterWhole at read
  split at read
  next => exact absurd (whole_append read).1 ended
  next => exact ⟨List.cons_ne_nil _ _, readFraction_append read ended more⟩
  next => exact ⟨List.cons_ne_nil _ _, readExponent_append read ended more⟩
  next => exact ⟨List.cons_ne_nil _ _, readExponent_append read ended more⟩
  next character others noPoint noSmall noLarge =>
    refine ⟨List.cons_ne_nil _ _, ?_⟩
    rw [List.cons_append, readAfterWhole]
    · split at read
      next isDigit =>
        have digits (goesOn : skipDigits (character :: others) ≠ []) :=
          skipDigits_append goesOn more
        rw [List.cons_append] at digits
        have places (goesOn : skipDigits (character :: others) ≠ []) :
            ((character :: (others ++ more)).length : Int) -
                (skipDigits (character :: (others ++ more))).length =
              (character :: others).length - (skipDigits (character :: others)).length := by
          rw [digits goesOn]
          simp only [List.length_append, List.length_cons]
          omega
        simp only [if_pos isDigit]
        dsimp only at read
        split at read
        next fraction behind =>
          have goesOn : skipDigits (character :: others) ≠ [] := by simp [behind]
          rw [places goesOn, digits goesOn]
          simp only [behind, List.cons_append] at read ⊢
          exact readFraction_append read ended more
        next noFraction =>
          obtain ⟨goesOn, power⟩ := readPower_append read ended more
          rw [places goesOn, digits goesOn]
          split
          next fraction behind =>
            cases remaining : skipDigits (character :: others) with
            | nil => exact absurd remaining goesOn
            | cons next after =>
                rw [remaining] at behind
                exact absurd (by rw [remaining, (List.cons.inj behind).1]) (noFraction after)
          next => exact power
      next noDigit =>
        obtain ⟨rfl, anyRest⟩ := whole_append read
        rw [if_neg noDigit]
        exact anyRest _
    · exact noPoint
    · exact noSmall
    · exact noLarge

theorem readNumber_append {isNegative : Bool} {text rest : List Char} {value : Number}
    (read : readNumber isNegative text = .ok (value, rest)) (ended : rest ≠ [])
    (more : List Char) :
    readNumber isNegative (text ++ more) = .ok (value, rest ++ more) := by
  unfold readNumber at read
  split at read
  next => cases read
  next others =>
    split at read
    next => cases read
    next alone =>
      obtain ⟨goesOn, after⟩ := readAfterWhole_append read ended more
      rw [List.cons_append, readNumber, List.head?_append_of_ne_nil others goesOn, if_neg alone]
      exact after
  next character others noZero =>
    split at read
    next isDigit =>
      have digits (goesOn : (readSignificand (digitValue character) others).2 ≠ []) :=
        readSignificand_append goesOn more
      rw [List.cons_append, readNumber, if_pos isDigit]
      · generalize readSignificand (digitValue character) others = taken at read digits
        obtain ⟨goesOn, after⟩ := readAfterWhole_append read ended more
        rw [digits goesOn]
        exact after
      · exact noZero
    next => cases read

/-! ### Values that are passed over -/

theorem skipExponent_append {text rest : List Char} (read : skipExponent text = .ok rest)
    (ended : rest ≠ []) (more : List Char) :
    skipExponent (text ++ more) = .ok (rest ++ more) := by
  unfold skipExponent at read
  split at read
  next character others signed =>
    have signed : exponentSign text = ((exponentSign text).1, character :: others) :=
      Prod.ext rfl signed
    rw [skipExponent, exponentSign_append signed more]
    split at read
    next isDigit =>
      cases read
      simp only [if_pos isDigit, skipDigits_append ended]
    next => cases read
  next => cases read

theorem skipFraction_append {text rest : List Char} (read : skipFraction text = .ok rest)
    (ended : rest ≠ []) (more : List Char) :
    skipFraction (text ++ more) = .ok (rest ++ more) := by
  unfold skipFraction at read
  split at read
  next => cases read
  next character others =>
    split at read
    next isDigit =>
      have digits (goesOn : skipDigits (character :: others) ≠ []) :=
        skipDigits_append goesOn more
      rw [List.cons_append] at digits
      rw [List.cons_append, skipFraction, if_pos isDigit]
      split at read
      next remaining behind =>
        rw [digits (by simp [behind]), behind]
        exact skipExponent_append read ended more
      next remaining behind =>
        rw [digits (by simp [behind]), behind]
        exact skipExponent_append read ended more
      next noSmall noLarge =>
        cases read
        rw [digits ended]
        cases remaining : skipDigits (character :: others) with
        | nil => exact absurd remaining ended
        | cons next after =>
            split
            next same => exact absurd (by rw [remaining, (List.cons.inj same).1]) (noSmall after)
            next same => exact absurd (by rw [remaining, (List.cons.inj same).1]) (noLarge after)
            next => rfl
    next => cases read

theorem skipAfterWhole_append {text rest : List Char} (read : skipAfterWhole text = .ok rest)
    (ended : rest ≠ []) (more : List Char) :
    text ≠ [] ∧ skipAfterWhole (text ++ more) = .ok (rest ++ more) := by
  unfold skipAfterWhole at read
  split at read
  next => exact ⟨List.cons_ne_nil _ _, skipFraction_append read ended more⟩
  next => exact ⟨List.cons_ne_nil _ _, skipExponent_append read ended more⟩
  next => exact ⟨List.cons_ne_nil _ _, skipExponent_append read ended more⟩
  next noPoint noSmall noLarge =>
    cases read
    refine ⟨ended, ?_⟩
    cases text with
    | nil => exact absurd rfl ended
    | cons character others =>
        rw [List.cons_append, skipAfterWhole]
        · rintro _ same
          exact noPoint others (by rw [(List.cons.inj same).1])
        · rintro _ same
          exact noSmall others (by rw [(List.cons.inj same).1])
        · rintro _ same
          exact noLarge others (by rw [(List.cons.inj same).1])

theorem skipNumber_append {text rest : List Char} (read : skipNumber text = .ok rest)
    (ended : rest ≠ []) (more : List Char) :
    skipNumber (text ++ more) = .ok (rest ++ more) := by
  unfold skipNumber at read
  split at read
  next => cases read
  next others =>
    split at read
    next => cases read
    next alone =>
      obtain ⟨goesOn, after⟩ := skipAfterWhole_append read ended more
      rw [List.cons_append, skipNumber, List.head?_append_of_ne_nil others goesOn, if_neg alone]
      exact after
  next character others noZero =>
    split at read
    next isDigit =>
      obtain ⟨goesOn, after⟩ := skipAfterWhole_append read ended more
      rw [List.cons_append, skipNumber, if_pos isDigit, skipDigits_append goesOn]
      · exact after
      · exact noZero
    next => cases read

theorem Frame.skipKey_append {frame : Frame} {text rest : List Char}
    (read : frame.skipKey text = .ok rest) (more : List Char) :
    frame.skipKey (text ++ more) = .ok (rest ++ more) := by
  unfold Frame.skipKey at read
  split at read
  next =>
    cases read
    rfl
  next =>
    split at read
    next => cases read
    next others opened =>
      split at read
      next => cases read
      next remaining skipped =>
        split at read
        next => cases read
        next value found =>
          cases read
          simp only [Frame.skipKey, skipGap_append opened, skipText_append skipped,
            skipGap_append found]
        next => cases read
    next => cases read

theorem skipScalar_append {first : Char} {rest remaining : List Char}
    (read : skipScalar first rest = .ok remaining) (ended : remaining ≠ [])
    (more : List Char) : skipScalar first (rest ++ more) = .ok (remaining ++ more) := by
  unfold skipScalar at read ⊢
  split at read
  next => exact readLetters_append read more
  next => exact readLetters_append read more
  next => exact readLetters_append read more
  next => exact skipNumber_append read ended more
  next => exact skipText_append read more
  next =>
    split at read
    next isDigit =>
      simp only [if_pos isDigit]
      exact skipNumber_append read ended more
    next => cases read

theorem skipRest_list {frames : List Frame} {text rest : List Char}
    (faced : skipGap text = '[' :: rest) :
    skipRest .value frames text = skipRest .element (.list :: frames) rest := by
  rw [skipRest]
  split
  next other => cases faced.symm.trans other
  next other => cases faced.symm.trans other; rfl
  next other => cases faced.symm.trans other
  next noList _ other =>
    cases faced.symm.trans other
    exact absurd rfl noList

theorem skipRest_object {frames : List Frame} {text rest : List Char}
    (faced : skipGap text = '\x7b' :: rest) :
    skipRest .value frames text = skipRest .element (.object :: frames) rest := by
  rw [skipRest]
  split
  next other => cases faced.symm.trans other
  next other => cases faced.symm.trans other
  next other => cases faced.symm.trans other; rfl
  next _ noObject other =>
    cases faced.symm.trans other
    exact absurd rfl noObject

/-- Any other value has no brackets, and what may follow a value comes next. -/
theorem skipRest_scalar {frames : List Frame} {text rest : List Char} {first : Char}
    (faced : skipGap text = first :: rest) (noList : first ≠ '[') (noObject : first ≠ '\x7b') :
    skipRest .value frames text = (skipScalar first rest).bind (skipRest .separator frames) := by
  rw [skipRest]
  split
  next other => cases faced.symm.trans other
  next other => exact absurd (List.cons.inj (faced.symm.trans other)).1 noList
  next other => exact absurd (List.cons.inj (faced.symm.trans other)).1 noObject
  next other =>
    cases faced.symm.trans other
    split
    next halted => rw [halted]; rfl
    next read => rw [read]; rfl

theorem skipRest_element (frame : Frame) (outer : List Frame) (text : List Char) :
    skipRest .element (frame :: outer) text =
      match skipGap text with
      | [] => .error (.facing frame.atEnd [])
      | character :: rest =>
          if character = frame.closing then skipRest .separator outer rest
          else (frame.skipKey (character :: rest)).bind (skipRest .value (frame :: outer)) := by
  rw [skipRest]
  split
  next faced => rw [faced]
  next character others faced =>
    rw [faced]
    refine if_congr Iff.rfl rfl ?_
    split
    next halted => rw [halted]; rfl
    next read => rw [read]; rfl

theorem skipRest_separator (frame : Frame) (outer : List Frame) (text : List Char) :
    skipRest .separator (frame :: outer) text =
      match skipGap text with
      | [] => .error (.facing frame.atEnd [])
      | character :: rest =>
          if character = ',' then
            (frame.skipKey rest).bind (skipRest .value (frame :: outer))
          else if character = frame.closing then skipRest .separator outer rest
          else .error (.facing frame.expected (character :: rest)) := by
  rw [skipRest]
  split
  next faced => rw [faced]
  next character others faced =>
    rw [faced]
    refine if_congr Iff.rfl ?_ rfl
    split
    next halted => rw [halted]; rfl
    next read => rw [read]; rfl

/-- Nothing is left behind a value when there was nothing in front of its end. -/
theorem ne_nil_of_skipRest {frames : List Frame} {text rest : List Char}
    (read : skipRest .separator frames text = .ok rest) (ended : rest ≠ []) : text ≠ [] := by
  rintro rfl
  cases frames with
  | nil =>
      rw [skipRest] at read
      cases read
      exact ended rfl
  | cons frame outer =>
      rw [skipRest_separator] at read
      cases read

theorem skipRest_append {expecting : Expecting} {frames : List Frame} {text rest : List Char}
    (read : skipRest expecting frames text = .ok rest) (ended : rest ≠ [])
    (more : List Char) : skipRest expecting frames (text ++ more) = .ok (rest ++ more) := by
  fun_induction skipRest expecting frames text with
  | case2 text frames others faced ih =>
      rw [skipRest_list (skipGap_append faced more)]
      exact ih read
  | case3 text frames others faced ih =>
      rw [skipRest_object (skipGap_append faced more)]
      exact ih read
  | case5 text frames first others noList noObject faced remaining scalar ih =>
      have scalar := skipScalar_append scalar (ne_nil_of_skipRest read ended) more
      rw [skipRest_scalar (skipGap_append faced more) noList noObject, scalar]
      exact ih read
  | case8 text frame outer others faced ih =>
      rw [skipRest_element, skipGap_append faced more]
      dsimp only
      rw [if_pos rfl]
      exact ih read
  | case10 text frame outer character others faced further remaining key ih =>
      rw [skipRest_element, skipGap_append faced more]
      dsimp only
      rw [if_neg further, ← List.cons_append, Frame.skipKey_append key more]
      exact ih read
  | case14 text frame outer others remaining key faced ih =>
      rw [skipRest_separator, skipGap_append faced more]
      dsimp only
      rw [if_pos rfl, Frame.skipKey_append key more]
      exact ih read
  | case15 text frame outer others faced noComma ih =>
      rw [skipRest_separator, skipGap_append faced more]
      dsimp only
      rw [if_neg noComma, if_pos rfl]
      exact ih read
  | case6 | case11 =>
      cases read
      rw [skipRest]
  | _ => cases read

theorem skipValue_append {text rest : List Char} (read : skipValue text = .ok rest)
    (ended : rest ≠ []) (more : List Char) : skipValue (text ++ more) = .ok (rest ++ more) :=
  skipRest_append read ended more

end SnippetSandbox.Json
