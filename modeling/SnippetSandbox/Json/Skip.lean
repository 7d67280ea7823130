import SnippetSandbox.Json.Number
import SnippetSandbox.Json.Text

/-!
# Passing over a value

A member that nobody asked for is checked for its syntax and otherwise ignored.
The brackets that are open are kept on a stack, so a value may be nested to any
depth.
-/

namespace SnippetSandbox.Json

theorem length_skipDigits_le (text : List Char) : (skipDigits text).length ≤ text.length :=
  (List.dropWhile_sublist (l := text) Char.isDigit).length_le

theorem length_of_skipExponent {text rest : List Char} (read : skipExponent text = .ok rest) :
    rest.length < text.length := by
  unfold skipExponent at read
  split at read
  next character remaining unsigned =>
    split at read
    · simp only [Except.ok.injEq] at read
      subst read
      have shorter := length_skipDigits_le remaining
      have signed := length_exponentSign_le text
      simp only [unsigned, List.length_cons] at signed
      omega
    · cases read
  next => cases read

theorem length_of_skipFraction {text rest : List Char} (read : skipFraction text = .ok rest) :
    rest.length ≤ text.length := by
  unfold skipFraction at read
  split at read
  · cases read
  next character remaining =>
    split at read
    · have digits := length_skipDigits_le (character :: remaining)
      split at read
      next skipped =>
        have := length_of_skipExponent read
        simp only [skipped, List.length_cons] at digits ⊢
        omega
      next skipped =>
        have := length_of_skipExponent read
        simp only [skipped, List.length_cons] at digits ⊢
        omega
      next =>
        simp only [Except.ok.injEq] at read
        subst read
        exact digits
    · cases read

theorem length_of_skipAfterWhole {text rest : List Char}
    (read : skipAfterWhole text = .ok rest) : rest.length ≤ text.length := by
  unfold skipAfterWhole at read
  split at read
  next =>
    have := length_of_skipFraction read
    simp only [List.length_cons]
    omega
  next =>
    have := length_of_skipExponent read
    simp only [List.length_cons]
    omega
  next =>
    have := length_of_skipExponent read
    simp only [List.length_cons]
    omega
  next =>
    simp only [Except.ok.injEq] at read
    simp [read]

theorem length_of_skipNumber {text rest : List Char} (read : skipNumber text = .ok rest) :
    rest.length < text.length := by
  unfold skipNumber at read
  split at read
  · cases read
  next remaining =>
    split at read
    · cases read
    · have := length_of_skipAfterWhole read
      simp only [List.length_cons]
      omega
  next character remaining _ =>
    split at read
    · have := length_of_skipAfterWhole read
      have := length_skipDigits_le remaining
      simp only [List.length_cons]
      omega
    · cases read

/-- An open bracket. -/
inductive Frame
  | list
  | object
  deriving DecidableEq, Repr

def Frame.closing : Frame → Char
  | .list => ']'
  | .object => '\x7d'

def Frame.atEnd : Frame → Problem
  | .list => .endInList
  | .object => .endInObject

def Frame.expected : Frame → Problem
  | .list => .expectedCommaOrBracket
  | .object => .expectedCommaOrBrace

/-- Pass over a key and its colon; a list has neither. -/
def Frame.skipKey (frame : Frame) (text : List Char) : Except Halt (List Char) :=
  match frame with
  | .list => .ok text
  | .object =>
      match skipGap text with
      | [] => .error (.facing .endInObject [])
      | '"' :: rest =>
          match skipText rest with
          | .error halt => .error halt
          | .ok remaining =>
              match skipGap remaining with
              | [] => .error (.facing .endInObject [])
              | ':' :: value => .ok value
              | other => .error (.facing .expectedColon other)
      | other => .error (.facing .keyNotString other)

theorem Frame.length_of_skipKey {frame : Frame} {text rest : List Char}
    (read : frame.skipKey text = .ok rest) : rest.length ≤ text.length := by
  unfold Frame.skipKey at read
  split at read
  next => simp_all
  next =>
    split at read
    · cases read
    next opened =>
      split at read
      · cases read
      next remaining skipped =>
        have := length_of_skipGap opened
        have := length_of_skipText skipped
        split at read
        · cases read
        next value found =>
          simp only [Except.ok.injEq] at read
          subst read
          have := length_of_skipGap found
          omega
        · cases read
    · cases read

def skipScalar (first : Char) (rest : List Char) : Except Halt (List Char) :=
  match first with
  | 'n' => readLetters ['u', 'l', 'l'] rest
  | 't' => readLetters ['r', 'u', 'e'] rest
  | 'f' => readLetters ['a', 'l', 's', 'e'] rest
  | '-' => skipNumber rest
  | '"' => skipText rest
  | _ =>
      if first.isDigit then skipNumber (first :: rest)
      else .error (.facing .expectedValue (first :: rest))

theorem length_of_skipScalar {first : Char} {rest remaining : List Char}
    (read : skipScalar first rest = .ok remaining) : remaining.length ≤ rest.length := by
  unfold skipScalar at read
  split at read
  next => exact length_of_readLetters read
  next => exact length_of_readLetters read
  next => exact length_of_readLetters read
  next => exact Nat.le_of_lt (length_of_skipNumber read)
  next => exact Nat.le_of_lt (length_of_skipText read)
  next =>
    split at read
    · have := length_of_skipNumber read
      simp only [List.length_cons] at this
      omega
    · cases read

/-- What is expected next while values are passed over. -/
inductive Expecting
  | value
  /-- The first element behind an opening bracket, or the closing one. -/
  | element
  | separator
  deriving DecidableEq, Repr

/-- The order in which one expectation may give way to another on the same text. -/
def Expecting.rank : Expecting → Nat
  | .value => 0
  | .element => 1
  | .separator => 1

/-- Pass over the rest of a value whose open brackets are on the stack, innermost
first. -/
def skipRest (expecting : Expecting) (frames : List Frame) (text : List Char) :
    Except Halt (List Char) :=
  match expecting, frames with
  | .value, frames =>
      match _next : skipGap text with
      | [] => .error (.facing .endInValue [])
      | '[' :: rest => skipRest .element (.list :: frames) rest
      | '\x7b' :: rest => skipRest .element (.object :: frames) rest
      | first :: rest =>
          match _read : skipScalar first rest with
          | .error halt => .error halt
          | .ok remaining => skipRest .separator frames remaining
  | .element, [] => .ok text
  | .element, frame :: outer =>
      match _next : skipGap text with
      | [] => .error (.facing frame.atEnd [])
      | character :: rest =>
          if character = frame.closing then skipRest .separator outer rest
          else
            match _key : frame.skipKey (character :: rest) with
            | .error halt => .error halt
            | .ok value => skipRest .value (frame :: outer) value
  | .separator, [] => .ok text
  | .separator, frame :: outer =>
      match _next : skipGap text with
      | [] => .error (.facing frame.atEnd [])
      | character :: rest =>
          if character = ',' then
            match _key : frame.skipKey rest with
            | .error halt => .error halt
            | .ok value => skipRest .value (frame :: outer) value
          else if character = frame.closing then skipRest .separator outer rest
          else .error (.facing frame.expected (character :: rest))
termination_by (text.length, expecting.rank)
decreasing_by
  · exact Prod.Lex.left _ _ (length_of_skipGap _next)
  · exact Prod.Lex.left _ _ (length_of_skipGap _next)
  · have := length_of_skipGap _next
    have := length_of_skipScalar _read
    exact Prod.Lex.left _ _ (by omega)
  · exact Prod.Lex.left _ _ (length_of_skipGap _next)
  · have shorter := length_of_skipGap _next
    have := Frame.length_of_skipKey _key
    simp only [List.length_cons] at this
    rcases Nat.lt_or_eq_of_le (Nat.le_trans this shorter) with less | equal
    · exact Prod.Lex.left _ _ less
    · rw [equal]
      exact Prod.Lex.right _ (by decide)
  · have := length_of_skipGap _next
    have := Frame.length_of_skipKey _key
    exact Prod.Lex.left _ _ (by omega)
  · exact Prod.Lex.left _ _ (length_of_skipGap _next)

def skipValue (text : List Char) : Except Halt (List Char) :=
  skipRest .value [] text

end SnippetSandbox.Json
