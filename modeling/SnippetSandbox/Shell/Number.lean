import SnippetSandbox.Text.Digits

/-!
# Numbers in scripts

Where a script asks for a number it takes decimal digits, or the digits of another
base where such a base is announced: octal ones behind a zero, hexadecimal ones
behind a zero and an x.  Numbers have sixty-four bits.
-/

namespace SnippetSandbox.Shell

def isSpace (character : Char) : Bool :=
  character = ' ' || ('\t' ≤ character && character ≤ '\r')

def isOctal (character : Char) : Bool :=
  '0' ≤ character && character ≤ '7'

def octalValue (digits : List Char) : Nat :=
  digits.foldl (fun value digit => 8 * value + Text.digitValue digit) 0

def isHex (character : Char) : Bool :=
  "0123456789abcdefABCDEF".toList.contains character

def hexValue (digit : Char) : Nat :=
  if digit.isDigit then Text.digitValue digit else digit.toLower.toNat - 'a'.toNat + 10

def hexadecimalValue (digits : List Char) : Nat :=
  digits.foldl (fun value digit => 16 * value + hexValue digit) 0

/-- The number at the front of a text and what follows it, in the base that is
announced.  Without a digit it is zero. -/
def takeNumber : List Char → Nat × List Char
  | '0' :: sign :: rest =>
      let hex := rest.takeWhile isHex
      if (sign = 'x' || sign = 'X') && hex ≠ [] then (hexadecimalValue hex, rest.drop hex.length)
      else
        let octal := (sign :: rest).takeWhile isOctal
        (octalValue octal, (sign :: rest).drop octal.length)
  | text =>
      let decimal := text.takeWhile Char.isDigit
      (Text.number decimal, text.drop decimal.length)

/-- A sign at the front of a text as a factor, and what follows it. -/
def takeSign : List Char → Int × List Char
  | '-' :: rest => (-1, rest)
  | '+' :: rest => (1, rest)
  | rest => (1, rest)

def isInRange (value : Int) : Bool := -(2 ^ 63) ≤ value && value < 2 ^ 63

/-- The number that decimal digits spell, with blanks around it and a sign; none if
they spell none, or one that does not fit. -/
def integer? (text : String) : Option Int :=
  let (sign, written) := takeSign (text.toList.dropWhile isSpace)
  let digits := written.takeWhile Char.isDigit
  let value := sign * Int.ofNat (Text.number digits)
  if digits ≠ [] && (written.drop digits.length).all isSpace && isInRange value then some value
  else none

/-- The number that a text spells in any base; nothing but blanks is zero. -/
def anyInteger? (text : String) : Option Int :=
  match text.toList.dropWhile isSpace with
  | [] => some 0
  | characters =>
      let (sign, written) := takeSign characters
      let (magnitude, rest) := takeNumber written
      let value := sign * Int.ofNat magnitude
      if written.head?.any Char.isDigit && rest.all isSpace && isInRange value then some value
      else none

end SnippetSandbox.Shell
