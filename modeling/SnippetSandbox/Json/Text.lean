import SnippetSandbox.Json.Reader

/-!
# Texts in a document

A text stands between double quotes.  In writing, the quote, the backslash and
the control characters are escaped and nothing else is.  In reading, every
escape of the format is known, and a character beyond the first 65536 may be
given by the two halves of its surrogate pair.
-/

namespace SnippetSandbox.Json

open Text (hexDigit)

/-- How one character is written inside quotes. -/
def encodeChar (character : Char) : List Char :=
  match character with
  | '"' => ['\\', '"']
  | '\\' => ['\\', '\\']
  | '\x08' => ['\\', 'b']
  | '\x0c' => ['\\', 'f']
  | '\n' => ['\\', 'n']
  | '\r' => ['\\', 'r']
  | '\t' => ['\\', 't']
  | other =>
      if other.toNat < 0x20 then
        ['\\', 'u', '0', '0', hexDigit (other.toNat / 16), hexDigit (other.toNat % 16)]
      else [other]

def encode (text : List Char) : List Char :=
  '"' :: text.flatMap encodeChar ++ ['"']

def hexValue? (character : Char) : Option Nat :=
  let code := character.toNat
  if 0x30 ≤ code ∧ code ≤ 0x39 then some (code - 0x30)
  else if 0x61 ≤ code ∧ code ≤ 0x66 then some (code - 0x61 + 10)
  else if 0x41 ≤ code ∧ code ≤ 0x46 then some (code - 0x41 + 10)
  else none

def hexUnit? (first second third fourth : Char) : Option Nat := do
  let first ← hexValue? first
  let second ← hexValue? second
  let third ← hexValue? third
  let fourth ← hexValue? fourth
  return ((first * 16 + second) * 16 + third) * 16 + fourth

/-- The problem with a text that does not begin with four hexadecimal digits.
Four bytes are taken whatever they are, and then looked at. -/
def badHexUnit (text : List Char) : Halt :=
  if byteLength text < 4 then .behind .endInString []
  else ⟨.invalidEscape, byteLength text - 4⟩

def readHexUnit (text : List Char) : Except Halt (Nat × List Char) :=
  match text with
  | first :: second :: third :: fourth :: rest =>
      match hexUnit? first second third fourth with
      | some unit => .ok (unit, rest)
      | none => .error (badHexUnit text)
  | _ => .error (badHexUnit text)

theorem length_of_readHexUnit {text rest : List Char} {unit : Nat}
    (read : readHexUnit text = .ok (unit, rest)) : rest.length < text.length := by
  unfold readHexUnit at read
  split at read
  next =>
    split at read
    · simp only [Except.ok.injEq, Prod.mk.injEq] at read
      obtain ⟨_, rfl⟩ := read
      simp only [List.length_cons]
      omega
    · cases read
  next => cases read

def isHighSurrogate (unit : Nat) : Bool :=
  0xd800 ≤ unit && unit ≤ 0xdbff

def isLowSurrogate (unit : Nat) : Bool :=
  0xdc00 ≤ unit && unit ≤ 0xdfff

def surrogatePair (high low : Nat) : Char :=
  Char.ofNat (0x10000 + (high - 0xd800) * 0x400 + (low - 0xdc00))

def readSecondHalf (high : Nat) (text : List Char) : Except Halt (Char × List Char) :=
  match text with
  | [] => .error (.behind .endInString [])
  | ['\\'] => .error (.behind .endInString [])
  | '\\' :: 'u' :: digits =>
      match readHexUnit digits with
      | .error halt => .error halt
      | .ok (low, rest) =>
          if isLowSurrogate low then .ok (surrogatePair high low, rest)
          else .error (.behind .loneSurrogate rest)
  | '\\' :: other => .error (.facing .unfinishedSurrogate other)
  | other => .error (.facing .unfinishedSurrogate other)

def letterEscape? : Char → Option Char
  | '"' => some '"'
  | '\\' => some '\\'
  | '/' => some '/'
  | 'b' => some '\x08'
  | 'f' => some '\x0c'
  | 'n' => some '\n'
  | 'r' => some '\r'
  | 't' => some '\t'
  | _ => none

def readEscape (text : List Char) : Except Halt (Char × List Char) :=
  match text with
  | [] => .error (.behind .endInString [])
  | 'u' :: digits =>
      match readHexUnit digits with
      | .error halt => .error halt
      | .ok (unit, rest) =>
          if isLowSurrogate unit then .error (.behind .loneSurrogate rest)
          else if isHighSurrogate unit then readSecondHalf unit rest
          else .ok (Char.ofNat unit, rest)
  | letter :: rest =>
      match letterEscape? letter with
      | some character => .ok (character, rest)
      | none => .error (.facing .invalidEscape text)

theorem length_of_readSecondHalf {text rest : List Char} {high : Nat} {character : Char}
    (read : readSecondHalf high text = .ok (character, rest)) : rest.length < text.length := by
  unfold readSecondHalf at read
  split at read
  next => cases read
  next => cases read
  next digits =>
    split at read
    · cases read
    next low remaining unitRead =>
      split at read
      · simp only [Except.ok.injEq, Prod.mk.injEq] at read
        obtain ⟨_, rfl⟩ := read
        have := length_of_readHexUnit unitRead
        simp only [List.length_cons]
        omega
      · cases read
  next => cases read
  next => cases read

theorem length_of_readEscape {text rest : List Char} {character : Char}
    (read : readEscape text = .ok (character, rest)) : rest.length < text.length := by
  unfold readEscape at read
  split at read
  next => cases read
  next digits =>
    split at read
    · cases read
    next unit remaining unitRead =>
      have shorter := length_of_readHexUnit unitRead
      simp only [List.length_cons]
      split at read
      · cases read
      · split at read
        · have := length_of_readSecondHalf read
          omega
        · simp only [Except.ok.injEq, Prod.mk.injEq] at read
          obtain ⟨_, rfl⟩ := read
          omega
  next letter others _ =>
    split at read
    · simp only [Except.ok.injEq, Prod.mk.injEq] at read
      obtain ⟨_, rfl⟩ := read
      simp
    · cases read

def readText (text : List Char) : Except Halt (List Char × List Char) :=
  match text with
  | [] => .error (.behind .endInString [])
  | '"' :: rest => .ok ([], rest)
  | '\\' :: escape =>
      match _read : readEscape escape with
      | .error halt => .error halt
      | .ok (character, rest) =>
          match readText rest with
          | .error halt => .error halt
          | .ok (characters, remaining) => .ok (character :: characters, remaining)
  | character :: rest =>
      if character.toNat < 0x20 then .error (.behind .controlCharacter rest)
      else
        match readText rest with
        | .error halt => .error halt
        | .ok (characters, remaining) => .ok (character :: characters, remaining)
termination_by text.length
decreasing_by
  · have := length_of_readEscape _read
    simp only [List.length_cons]
    omega
  · simp

theorem length_of_readText {text characters rest : List Char}
    (read : readText text = .ok (characters, rest)) : rest.length < text.length := by
  fun_induction readText text generalizing characters with
  | case1 => cases read
  | case2 remaining => simp_all
  | case3 => cases read
  | case4 => simp_all
  | case5 escape character remaining escapeRead others last textRead ih =>
      simp only [Except.ok.injEq, Prod.mk.injEq] at read
      obtain ⟨_, rfl⟩ := read
      have := ih textRead
      have := length_of_readEscape escapeRead
      simp only [List.length_cons]
      omega
  | case6 => cases read
  | case7 => simp_all
  | case8 character remaining _ _ _ others last textRead ih =>
      simp only [Except.ok.injEq, Prod.mk.injEq] at read
      obtain ⟨_, rfl⟩ := read
      have := ih textRead
      simp only [List.length_cons]
      omega

/-- Pass over a text behind its opening quote without taking its characters;
surrogates need not come in pairs. -/
def skipText (text : List Char) : Except Halt (List Char) :=
  match text with
  | [] => .error (.behind .endInString [])
  | '"' :: rest => .ok rest
  | ['\\'] => .error (.behind .endInString [])
  | '\\' :: 'u' :: digits =>
      match _read : readHexUnit digits with
      | .error halt => .error halt
      | .ok (_, rest) => skipText rest
  | '\\' :: letter :: rest =>
      if (letterEscape? letter).isSome then skipText rest
      else .error (.facing .invalidEscape (letter :: rest))
  | character :: rest =>
      if character.toNat < 0x20 then .error (.behind .controlCharacter (character :: rest))
      else skipText rest
termination_by text.length
decreasing_by
  · have := length_of_readHexUnit _read
    simp only [List.length_cons]
    omega
  · simp only [List.length_cons]
    omega
  · simp

theorem length_of_skipText {text rest : List Char} (read : skipText text = .ok rest) :
    rest.length < text.length := by
  fun_induction skipText text with
  | case1 => cases read
  | case2 remaining => simp_all
  | case3 => cases read
  | case4 => cases read
  | case5 digits unit remaining unitRead ih =>
      have := ih read
      have := length_of_readHexUnit unitRead
      simp only [List.length_cons]
      omega
  | case6 letter remaining _ _ ih =>
      have := ih read
      simp only [List.length_cons]
      omega
  | case7 => cases read
  | case8 => cases read
  | case9 character remaining _ _ _ _ _ ih =>
      have := ih read
      simp only [List.length_cons]
      omega

end SnippetSandbox.Json
