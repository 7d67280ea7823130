import SnippetSandbox.Json.Reader

/-!
# Numbers in a document

A number without fraction and exponent is a whole number as long as it fits in
64 bits, with a sign or without.  All others become binary floating-point
numbers: the digits that still fit in 64 bits are scaled by a power of ten.
-/

namespace SnippetSandbox.Json

open Text (digitValue)

/-- A number as it was read. -/
inductive Number
  | natural (value : Nat)
  /-- A whole number below zero, given by its absolute value. -/
  | negative (magnitude : Nat)
  | floating (value : Decimal.Binary)
  deriving DecidableEq, Repr

def largestNatural : Nat := 2 ^ 64 - 1

/-- The smallest whole number below zero is minus this. -/
def largestMagnitude : Nat := 2 ^ 63

def Number.found : Number → Found
  | .natural value => .integer value
  | .negative magnitude => .integer (-magnitude)
  | .floating value => .floatingPoint value

/-- Read digits as long as the number they make fits in 64 bits. -/
def readSignificand (value : Nat) : List Char → Nat × List Char
  | [] => (value, [])
  | character :: rest =>
      if character.isDigit then
        let larger := 10 * value + digitValue character
        if larger ≤ largestNatural then readSignificand larger rest
        else (value, character :: rest)
      else (value, character :: rest)

def skipDigits (text : List Char) : List Char :=
  text.dropWhile Char.isDigit

/-- A power of ten as a floating-point number. -/
def powerOfTen (exponent : Nat) : Float :=
  Float.ofScientific 1 false exponent

/-- Scale a number by a power of ten, in steps of at most 308 places.  There is
no result beyond the largest floating-point number. -/
def scale : Nat → Float → Int → Option Float
  | 0, value, _ => some value
  | steps + 1, value, exponent =>
      if exponent.natAbs ≤ 308 then
        if 0 ≤ exponent then
          let scaled := value * powerOfTen exponent.natAbs
          if scaled.isInf then none else some scaled
        else some (value / powerOfTen exponent.natAbs)
      else if value == 0.0 then some value
      else if 0 ≤ exponent then none
      else scale steps (value / powerOfTen 308) (exponent + 308)

/-- The floating-point number with this significand and power of ten, read up to
the rest. -/
def floating (isNegative : Bool) (significand : Nat) (exponent : Int) (rest : List Char) :
    Except Halt (Number × List Char) :=
  match scale 4 (UInt64.ofNat significand).toFloat exponent with
  | some value =>
      let signed := if isNegative then -value else value
      .ok (.floating (Decimal.Binary.ofBits signed.toBits), rest)
  | none => .error (.behind .numberOutOfRange rest)

/-- Read the further digits of an exponent that may not grow beyond 31 bits; the
flag tells whether it did, and then the rest begins behind the digit too many. -/
def readExponentDigits (value : Nat) : List Char → Nat × Bool × List Char
  | [] => (value, false, [])
  | character :: rest =>
      if character.isDigit then
        let larger := 10 * value + digitValue character
        if larger < 2 ^ 31 then readExponentDigits larger rest else (value, true, rest)
      else (value, false, character :: rest)

/-- The sign of an exponent, and the text behind it; without one it is positive. -/
def exponentSign : List Char → Bool × List Char
  | '+' :: rest => (false, rest)
  | '-' :: rest => (true, rest)
  | text => (false, text)

theorem length_exponentSign_le (text : List Char) :
    (exponentSign text).2.length ≤ text.length := by
  unfold exponentSign
  split <;> simp

def readExponent (isNegative : Bool) (significand : Nat) (start : Int) (text : List Char) :
    Except Halt (Number × List Char) :=
  match exponentSign text with
  | (_, []) => .error (.behind .endInValue [])
  | (below, character :: rest) =>
      if character.isDigit then
        let (value, tooLarge, rest) := readExponentDigits (digitValue character) rest
        if tooLarge then
          if significand ≠ 0 ∧ !below then .error (.behind .numberOutOfRange rest)
          else floating isNegative 0 0 (skipDigits rest)
        else
          floating isNegative significand (if below then start - value else start + value) rest
      else .error (.facing .invalidNumber (character :: rest))

def readPower (isNegative : Bool) (significand : Nat) (exponent : Int) (text : List Char) :
    Except Halt (Number × List Char) :=
  match text with
  | 'e' :: rest | 'E' :: rest => readExponent isNegative significand exponent rest
  | _ => floating isNegative significand exponent text

/-- Read a fraction behind its point.  Digits that no longer fit are passed over. -/
def readFraction (isNegative : Bool) (significand : Nat) (exponent : Int) (text : List Char) :
    Except Halt (Number × List Char) :=
  match text with
  | [] => .error (.facing .endInValue [])
  | character :: _ =>
      if character.isDigit then
        let (larger, rest) := readSignificand significand text
        let places := text.length - rest.length
        readPower isNegative larger (exponent - places) (skipDigits rest)
      else .error (.facing .invalidNumber text)

/-- The whole number with this sign; what has no place among them is floating. -/
def whole (isNegative : Bool) (value : Nat) (rest : List Char) :
    Except Halt (Number × List Char) :=
  if isNegative then
    if value = 0 ∨ largestMagnitude < value then floating true value 0 rest
    else .ok (.negative value, rest)
  else .ok (.natural value, rest)

def readAfterWhole (isNegative : Bool) (value : Nat) (text : List Char) :
    Except Halt (Number × List Char) :=
  match text with
  | [] => whole isNegative value text
  | '.' :: rest => readFraction isNegative value 0 rest
  | 'e' :: rest | 'E' :: rest => readExponent isNegative value 0 rest
  | character :: _ =>
      if character.isDigit then
        let rest := skipDigits text
        let places : Int := text.length - rest.length
        match rest with
        | '.' :: fraction => readFraction isNegative value places fraction
        | _ => readPower isNegative value places rest
      else whole isNegative value text

/-- Read a number behind its sign.  A zero is not followed by another digit. -/
def readNumber (isNegative : Bool) (text : List Char) : Except Halt (Number × List Char) :=
  match text with
  | [] => .error (.behind .endInValue [])
  | '0' :: rest =>
      if (rest.head?.map Char.isDigit).getD false then .error (.facing .invalidNumber rest)
      else readAfterWhole isNegative 0 rest
  | character :: rest =>
      if character.isDigit then
        let (value, remaining) := readSignificand (digitValue character) rest
        readAfterWhole isNegative value remaining
      else .error (.facing .invalidNumber text)

def skipExponent (text : List Char) : Except Halt (List Char) :=
  match (exponentSign text).2 with
  | character :: rest =>
      if character.isDigit then .ok (skipDigits rest)
      else .error (.facing .invalidNumber (character :: rest))
  | [] => .error (.facing .invalidNumber [])

def skipFraction (text : List Char) : Except Halt (List Char) :=
  match text with
  | [] => .error (.facing .invalidNumber [])
  | character :: _ =>
      if character.isDigit then
        match skipDigits text with
        | 'e' :: rest | 'E' :: rest => skipExponent rest
        | rest => .ok rest
      else .error (.facing .invalidNumber text)

def skipAfterWhole (text : List Char) : Except Halt (List Char) :=
  match text with
  | '.' :: rest => skipFraction rest
  | 'e' :: rest | 'E' :: rest => skipExponent rest
  | _ => .ok text

def skipNumber (text : List Char) : Except Halt (List Char) :=
  match text with
  | [] => .error (.facing .invalidNumber [])
  | '0' :: rest =>
      if (rest.head?.map Char.isDigit).getD false then .error (.facing .invalidNumber rest)
      else skipAfterWhole rest
  | character :: rest =>
      if character.isDigit then skipAfterWhole (skipDigits rest)
      else .error (.facing .invalidNumber text)

end SnippetSandbox.Json
