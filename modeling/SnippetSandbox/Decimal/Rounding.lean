import SnippetSandbox.Decimal.Binary
import SnippetSandbox.Text.Digits

/-!
# Rounding

A quotient of whole numbers is rounded to the nearest whole number, and one in the
middle goes to the even neighbour.  That is how a decimal becomes a binary number,
and how a binary number is written with a given number of digits.
-/

namespace SnippetSandbox.Decimal

open Text

/-- The whole number nearest to a quotient, of two such the even one. -/
def nearest (numerator denominator : Nat) : Nat :=
  let quotient := numerator / denominator
  let twiceRest := 2 * (numerator % denominator)
  if denominator < twiceRest || (twiceRest = denominator && quotient % 2 = 1) then quotient + 1
  else quotient

/-- A number of double precision, or one that is none. -/
inductive Double
  | finite (value : Binary)
  | infinite (negative : Bool)
  | undefined (negative : Bool)
  deriving DecidableEq, Repr

/-- The smallest exponent of double precision. -/
def lowestExponent : Int := -1074

/-- The largest exponent of double precision. -/
def highestExponent : Int := 971

/-- The number of double precision that is nearest to a quotient, and whether it lies
out of range. -/
def Double.ofQuotient (negative : Bool) (numerator denominator : Nat) : Double × Bool :=
  if numerator = 0 then (.finite ⟨negative, 0, lowestExponent, false⟩, false)
  else
    let estimate : Int := (numerator.log2 : Int) - (denominator.log2 : Int)
    let reaches : Bool :=
      if 0 ≤ estimate then denominator * 2 ^ estimate.toNat ≤ numerator
      else denominator ≤ numerator * 2 ^ (-estimate).toNat
    let exponent := max ((if reaches then estimate else estimate - 1) - 52) lowestExponent
    let up := numerator * 2 ^ (-exponent).toNat
    let down := denominator * 2 ^ exponent.toNat
    let significand := nearest up down
    let isTiny := significand < 2 ^ 52 && up % down ≠ 0
    let (significand, exponent) :=
      if significand = 2 ^ 53 then (2 ^ 52, exponent + 1) else (significand, exponent)
    if highestExponent < exponent then (.infinite negative, true)
    else (.finite ⟨negative, significand, exponent, false⟩, isTiny)

def Binary.quotient (binary : Binary) : Nat × Nat :=
  (binary.significand * 2 ^ binary.exponent.toNat, 2 ^ (-binary.exponent).toNat)

/-- The digits of the number with so many places behind the point, as a whole number. -/
def Binary.fixed (binary : Binary) (places : Nat) : Nat :=
  let (numerator, denominator) := binary.quotient
  nearest (numerator * 10 ^ places) denominator

def reachesPower (numerator denominator : Nat) (power : Int) : Bool :=
  if 0 ≤ power then denominator * 10 ^ power.toNat ≤ numerator
  else denominator ≤ numerator * 10 ^ (-power).toNat

/-- The largest power of ten that the number reaches.  It is looked for from an estimate
on, which is too small by less than three. -/
def Binary.powerOfTen (binary : Binary) : Int :=
  if binary.significand = 0 then 0
  else
    let (numerator, denominator) := binary.quotient
    let size : Int := (numerator.log2 : Int) - (denominator.log2 : Int)
    let estimate := Int.fdiv (size * 30103) 100000 - 2
    let above := (List.range 6).takeWhile fun (step : Nat) =>
      reachesPower numerator denominator (estimate + Int.ofNat step + 1)
    estimate + above.length

/-- The first digits of the number, one more than `places`, as a whole number, and the
power of ten of the first of them. -/
def Binary.scientific (binary : Binary) (places : Nat) : Nat × Int :=
  if binary.significand = 0 then (0, 0)
  else
    let (numerator, denominator) := binary.quotient
    let power := binary.powerOfTen
    let shift := (places : Int) - power
    let digits := nearest (numerator * 10 ^ shift.toNat) (denominator * 10 ^ (-shift).toNat)
    if digits = 10 ^ (places + 1) then (10 ^ places, power + 1) else (digits, power)

/-- How a number is written: its digits behind the point, the point of a whole number,
and the case of letters. -/
structure Numeral where
  places : Nat
  keepsPoint : Bool
  isUpper : Bool

namespace Numeral

def letters (numeral : Numeral) (text : String) : List Char :=
  text.toList.map fun letter => if numeral.isUpper then letter.toUpper else letter

/-- A whole number as digits with a point in front of the last `places`. -/
def pointed (numeral : Numeral) (value places : Nat) : List Char :=
  let shown := paddedDigits (places + 1) value
  let whole := shown.take (shown.length - places)
  if places = 0 then if numeral.keepsPoint then whole ++ ['.'] else whole
  else whole ++ '.' :: shown.drop (shown.length - places)

def power (letter : List Char) (least : Nat) (exponent : Int) : List Char :=
  letter ++ (if exponent < 0 then '-' else '+') :: paddedDigits least exponent.natAbs

/-- The number in place. -/
def fixed (numeral : Numeral) (binary : Binary) : List Char :=
  numeral.pointed (binary.fixed numeral.places) numeral.places

/-- The number with one digit in front of the point, and a power of ten. -/
def scientific (numeral : Numeral) (binary : Binary) : List Char :=
  let (digits, exponent) := binary.scientific numeral.places
  numeral.pointed digits numeral.places ++ power (numeral.letters "e") 2 exponent

def dropZeros (text : List Char) : List Char :=
  if '.' ∈ text then
    let kept := (text.reverse.dropWhile (· = '0')).reverse
    if kept.getLast? = some '.' then kept.dropLast else kept
  else text

/-- The number with so many digits, in place unless it is very small or large. -/
def general (numeral : Numeral) (binary : Binary) : List Char :=
  let count := max numeral.places 1
  let (digits, exponent) := binary.scientific (count - 1)
  let trim (text : List Char) : List Char := if numeral.keepsPoint then text else dropZeros text
  if -4 ≤ exponent && exponent < count then
    let places := ((count : Int) - 1 - exponent).toNat
    trim ({ numeral with places }.fixed binary)
  else
    trim (numeral.pointed digits (count - 1)) ++ power (numeral.letters "e") 2 exponent

/-- The number in hexadecimal digits and a power of two; without a count of places, as
many as it has. -/
def hexadecimal (numeral : Numeral) (places : Option Nat) (binary : Binary) : List Char :=
  let isSmall := binary.significand < 2 ^ 52
  let exponent : Int :=
    if binary.significand = 0 then 0 else if isSmall then -1022 else binary.exponent + 52
  let shown : Nat × Nat := match places with
    | some count =>
        if count < 13 then
          (nearest binary.significand (16 ^ (13 - count)), count)
        else (binary.significand * 16 ^ (count - 13), count)
    | none => (binary.significand, 13)
  let digits := Nat.toDigits 16 shown.1
  let padded := List.replicate (shown.2 + 1 - digits.length) '0' ++ digits
  let whole := padded.take (padded.length - shown.2)
  let behind := padded.drop (padded.length - shown.2)
  let behind := if places.isNone then (behind.reverse.dropWhile (· = '0')).reverse else behind
  let point := if behind = [] && !numeral.keepsPoint then [] else ['.']
  numeral.letters (String.ofList (['0', 'x'] ++ whole ++ point ++ behind)) ++
    power (numeral.letters "p") 1 exponent

end Numeral

/-! ## Reading -/

def digitIn (base : Nat) (character : Char) : Option Nat :=
  let value :=
    if character.isDigit then digitValue character
    else if 'a' ≤ character.toLower && character.toLower ≤ 'f' then
      character.toLower.toNat - 'a'.toNat + 10
    else base
  if value < base then some value else none

/-- The digits of a number with a point, as a whole number, how many of them stand
behind the point, and what follows; none without a digit. -/
def takePointed (base : Nat) (text : List Char) : Option (Nat × Nat × List Char) :=
  let isDigit (character : Char) : Bool := (digitIn base character).isSome
  let value (digits : List Char) : Nat :=
    digits.foldl (fun sum digit => base * sum + (digitIn base digit).getD 0) 0
  let whole := text.takeWhile isDigit
  let rest := text.drop whole.length
  match rest with
  | '.' :: behind =>
      let fraction := behind.takeWhile isDigit
      if whole = [] && fraction = [] then none
      else some (value (whole ++ fraction), fraction.length, behind.drop fraction.length)
  | _ => if whole = [] then none else some (value whole, 0, rest)

def takeExponent (lower upper : Char) (text : List Char) : Int × List Char :=
  let signed (sign : Int) (written : List Char) : Int × List Char :=
    let digits := written.takeWhile Char.isDigit
    if digits = [] then (0, text)
    else (sign * Int.ofNat (min (number digits) 100000), written.drop digits.length)
  match text with
  | letter :: rest =>
      if letter = lower || letter = upper then
        match rest with
        | '-' :: written => signed (-1) written
        | '+' :: written => signed 1 written
        | written => signed 1 written
      else (0, text)
  | [] => (0, text)

/-- A number at the front of a text behind its sign, whether it is out of range, and
what follows; none without a number. -/
def Double.read? (negative : Bool) (text : List Char) : Option (Double × Bool × List Char) :=
  let lower := text.map Char.toLower
  let scaled (value base : Nat) (power : Int) : Double × Bool :=
    Double.ofQuotient negative (value * base ^ power.toNat) (base ^ (-power).toNat)
  let decimal : Option (Double × Bool × List Char) :=
    (takePointed 10 text).map fun (value, places, rest) =>
      let (exponent, behind) := takeExponent 'e' 'E' rest
      let (real, isOut) := scaled value 10 (exponent - places)
      (real, isOut, behind)
  let starts (word : String) : Bool := word.toList.isPrefixOf lower
  if starts "infinity" then some (.infinite negative, false, text.drop 8)
  else if starts "inf" then some (.infinite negative, false, text.drop 3)
  else if starts "nan" then some (.undefined negative, false, text.drop 3)
  else if starts "0x" then
    match takePointed 16 (text.drop 2) with
    | some (value, places, rest) =>
        let (exponent, behind) := takeExponent 'p' 'P' rest
        let (real, isOut) := scaled value 2 (exponent - 4 * places)
        some (real, isOut, behind)
    | none => decimal
  else decimal

end SnippetSandbox.Decimal
