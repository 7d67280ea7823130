import SnippetSandbox.Decimal.Rounding
import SnippetSandbox.Shell.Number

/-!
# Formatted output

Two commands write formatted text.  One writes its arguments with blanks in
between, the other one fills them into a format that is used again until no
argument is left.  Both know escapes, some of which stand for bytes that are no
text.
-/

namespace SnippetSandbox.Shell

open Decimal Text

def escapedCharacter? : Char → Option Char
  | 'a' => some '\x07'
  | 'b' => some '\x08'
  | 'e' => some '\x1b'
  | 'f' => some '\x0c'
  | 'n' => some '\n'
  | 'r' => some '\r'
  | 't' => some '\t'
  | 'v' => some '\x0b'
  | '\\' => some '\\'
  | _ => none

def takeOctal (text : List Char) : List Char := (text.take 3).takeWhile isOctal

def octalByte (digits : List Char) : Char := Char.ofNat (octalValue digits % 256)

def takeEscape (text : List Char) : Char × List Char :=
  match text with
  | [] => ('\\', [])
  | character :: rest =>
      if isOctal character then
        let digits := takeOctal text
        (octalByte digits, text.drop digits.length)
      else
        match escapedCharacter? character with
        | some meant => (meant, rest)
        | none => ('\\', text)

/-- A text with its escapes carried out, and whether the output goes on behind it.  One
more zero may stand in front of octal digits.  `count` bounds the number of steps. -/
def unescaped : Nat → List Char → List Char × Bool
  | 0, _ | _, [] => ([], true)
  | _, '\\' :: 'c' :: _ => ([], false)
  | count + 1, '\\' :: rest =>
      let digits := match rest with
        | '0' :: digit :: others => if isOctal digit then digit :: others else rest
        | _ => rest
      let (character, behind) := takeEscape digits
      let (others, goesOn) := unescaped count behind
      (character :: others, goesOn)
  | count + 1, character :: rest =>
      let (others, goesOn) := unescaped count rest
      (character :: others, goesOn)

/-- A text with its escapes carried out, and whether the output goes on behind it. -/
def unescape (text : String) : List Char × Bool := unescaped text.length text.toList

/-- What is written for arguments: the arguments with blanks in between and escapes
carried out, and a line end unless the first argument asks for none. -/
def echoed (arguments : List String) : List Char :=
  let (texts, isEnded) := match arguments with
    | "-n" :: others => (others, false)
    | others => (others, true)
  let (text, goesOn) := unescape (" ".intercalate texts)
  if isEnded && goesOn then text ++ ['\n'] else text

/-- How a value is fitted into a slot of a format. -/
structure Slot where
  left : Bool := false
  zeros : Bool := false
  plus : Bool := false
  space : Bool := false
  alternate : Bool := false
  width : Nat := 0
  precision : Option Nat := none
  deriving DecidableEq, Repr

namespace Slot

def fit (slot : Slot) (text : List Char) : List Char :=
  let missing := List.replicate (slot.width - text.length) ' '
  if slot.left then text ++ missing else missing ++ text

def cut (slot : Slot) (text : List Char) : List Char :=
  match slot.precision with
  | some most => text.take most
  | none => text

def fitDigits (slot : Slot) (sign digits : List Char) : List Char :=
  if slot.zeros && !slot.left then
    sign ++ List.replicate (slot.width - sign.length - digits.length) '0' ++ digits
  else slot.fit (sign ++ digits)

def fitNumber (slot : Slot) (sign digits : List Char) : List Char :=
  match slot.precision with
  | some least =>
      let digits := if digits = ['0'] then [] else digits
      slot.fit (sign ++ List.replicate (least - digits.length) '0' ++ digits)
  | none => slot.fitDigits sign digits

def sign (slot : Slot) (negative : Bool) : List Char :=
  if negative then ['-'] else if slot.plus then ['+'] else if slot.space then [' '] else []

def number (slot : Slot) (kind : Char) (value : Int) : List Char :=
  let wrapped : Nat := (value % 2 ^ 64).toNat
  match kind with
  | 'u' => slot.fitNumber [] (digits wrapped)
  | 'o' =>
      let shown := Nat.toDigits 8 wrapped
      let isShort := slot.precision.getD 0 ≤ shown.length && (wrapped ≠ 0 || slot.precision.isSome)
      if slot.alternate && isShort then
        slot.fitNumber [] ('0' :: if wrapped = 0 then [] else shown)
      else slot.fitNumber [] shown
  | 'x' | 'X' =>
      let lead := if slot.alternate && wrapped ≠ 0 then ['0', kind] else []
      let shown := Nat.toDigits 16 wrapped
      slot.fitNumber lead (if kind = 'X' then shown.map Char.toUpper else shown)
  | _ => slot.fitNumber (slot.sign (value < 0)) (digits value.natAbs)

def real (slot : Slot) (kind : Char) (value : Double) : List Char :=
  let isUpper := kind.isUpper
  let word (negative : Bool) (text : String) : List Char :=
    let letters := text.toList.map fun letter => if isUpper then letter.toUpper else letter
    slot.fit (slot.sign negative ++ letters)
  match value with
  | .infinite negative => word negative "inf"
  | .undefined negative => word negative "nan"
  | .finite binary =>
      let numeral : Numeral := ⟨slot.precision.getD 6, slot.alternate, isUpper⟩
      let sign := slot.sign binary.negative
      match kind.toLower with
      | 'e' => slot.fitDigits sign (numeral.scientific binary)
      | 'f' => slot.fitDigits sign (numeral.fixed binary)
      | 'g' => slot.fitDigits sign (numeral.general binary)
      | _ =>
          let shown := numeral.hexadecimal slot.precision binary
          slot.fitDigits (sign ++ shown.take 2) (shown.drop 2)

end Slot

/-- What an argument that should be a number stands for. -/
structure Measured (Value : Type) where
  value : Value
  isOutOfRange : Bool := false
  isStarted : Bool := true
  rest : List Char := []

/-- What is wrong with an argument of which only a part is a number. -/
def misfit? {Value : Type} (argument : String) (measured : Measured Value) : Option String :=
  if measured.rest ≠ [] then
    some (argument ++
      if measured.isStarted then ": not completely converted" else ": expected numeric value")
  else if measured.isOutOfRange then some (argument ++ ": Numerical result out of range")
  else none

def quotedNumber? (argument : String) : Option Nat :=
  match argument.toList with
  | '"' :: rest | '\'' :: rest => some ((rest.head?.map Char.toNat).getD 0)
  | _ => none

def measureWhole (isSigned : Bool) (characters : List Char) : Measured Int :=
  let (sign, written) := takeSign (characters.dropWhile isSpace)
  let (magnitude, rest) := takeNumber written
  let isStarted := written.head?.any Char.isDigit
  let value := sign * Int.ofNat magnitude
  let isOutOfRange := if isSigned then !isInRange value else decide (2 ^ 64 ≤ magnitude)
  let value : Int :=
    if !isOutOfRange then value
    else if !isSigned then 2 ^ 64 - 1 else if sign < 0 then -(2 ^ 63) else 2 ^ 63 - 1
  { value, isOutOfRange, isStarted, rest := if isStarted then rest else characters }

/-- The whole number that an argument stands for, and what is wrong with the argument. -/
def wholeArgument (isSigned : Bool) (argument : String) : Int × Option String :=
  match quotedNumber? argument with
  | some value => (value, none)
  | none =>
      let measured := measureWhole isSigned argument.toList
      (measured.value, misfit? argument measured)

def measureReal (characters : List Char) : Measured Double :=
  let (sign, written) := takeSign (characters.dropWhile isSpace)
  match Double.read? (sign < 0) written with
  | some (value, isOutOfRange, rest) => { value, isOutOfRange, rest }
  | none =>
      { value := .finite ⟨false, 0, lowestExponent, false⟩, isStarted := false
        rest := characters }

/-- The number of double precision that an argument stands for, and what is wrong with
the argument. -/
def realArgument (argument : String) : Double × Option String :=
  match quotedNumber? argument with
  | some value => ((Double.ofQuotient false value 1).1, none)
  | none =>
      let measured := measureReal argument.toList
      (measured.value, misfit? argument measured)

/-- What has been written for a format, and what is left of the arguments. -/
structure Filling where
  text : List Char := []
  arguments : List String
  /-- What was wrong with arguments that should have been numbers, the last one first. -/
  misfits : List String := []
  isOver : Bool := false
  problem : Option String := none

namespace Filling

def add (text : List Char) (filling : Filling) : Filling :=
  { filling with text := text.reverse ++ filling.text }

def use (filling : Filling) : Option String × Filling :=
  (filling.arguments.head?, { filling with arguments := filling.arguments.tail })

def note (misfit : Option String) (filling : Filling) : Filling :=
  { filling with misfits := misfit.toList ++ filling.misfits }

def whole (isSigned : Bool) (filling : Filling) : Int × Filling :=
  match filling.use with
  | (none, rest) => (0, rest)
  | (some argument, rest) =>
      let (value, misfit) := wholeArgument isSigned argument
      (value, rest.note misfit)

end Filling

def takeFlags : List Char → Slot → Slot × List Char
  | '-' :: rest, slot => takeFlags rest { slot with left := true }
  | '0' :: rest, slot => takeFlags rest { slot with zeros := true }
  | '+' :: rest, slot => takeFlags rest { slot with plus := true }
  | ' ' :: rest, slot => takeFlags rest { slot with space := true }
  | '#' :: rest, slot => takeFlags rest { slot with alternate := true }
  | rest, slot => (slot, rest)

/-- A slot, behind its sign, what follows it, and the arguments that are left when its
sizes have been taken from them. -/
def takeSlot (text : List Char) (filling : Filling) : Slot × List Char × Filling :=
  let isSize (character : Char) : Bool := character = '*' || character.isDigit
  let size (text : List Char) (filling : Filling) : Int × List Char × Filling :=
    match text with
    | '*' :: rest =>
        let (value, filling) := filling.whole true
        (value, rest, filling)
    | _ =>
        let digits := text.takeWhile isSize
        (Int.ofNat (Text.number (digits.filter Char.isDigit)), text.drop digits.length, filling)
  let (slot, text) := takeFlags text {}
  let (width, text, filling) := size text filling
  let slot := { slot with width := width.natAbs, left := slot.left || width < 0 }
  match text with
  | '.' :: rest =>
      let (precision, text, filling) := size rest filling
      ({ slot with precision := if precision < 0 then none else some precision.toNat },
        text, filling)
  | _ => (slot, text, filling)

def fill (slot : Slot) (kind : Char) (directive : String) (filling : Filling) : Filling :=
  if kind = 's' then
    let (argument, filling) := filling.use
    filling.add (slot.fit (slot.cut (argument.getD "").toList))
  else if kind = 'c' then
    let (argument, filling) := filling.use
    filling.add (slot.fit [(argument.getD "").toList.headD '\x00'])
  else if kind = 'b' then
    let (argument, filling) := filling.use
    let (text, goesOn) := unescape (argument.getD "")
    { filling.add (slot.fit (slot.cut text)) with isOver := !goesOn }
  else if "diouxX".toList.contains kind then
    let (value, filling) := filling.whole (kind = 'd' || kind = 'i')
    filling.add (slot.number kind value)
  else if "eEfFgGaA".toList.contains kind then
    match filling.use with
    | (none, filling) => filling.add (slot.real kind (realArgument "0").1)
    | (some argument, filling) =>
        let (value, misfit) := realArgument argument
        (filling.note misfit).add (slot.real kind value)
  else { filling with isOver := true, problem := some (directive ++ ": invalid directive") }

/-- One pass over a format.  `count` bounds the number of steps. -/
def fillOnce : Nat → List Char → Filling → Filling
  | 0, _, filling | _, [], filling => filling
  | count + 1, '\\' :: rest, filling =>
      let (character, behind) := takeEscape rest
      fillOnce count behind (filling.add [character])
  | count + 1, '%' :: '%' :: rest, filling => fillOnce count rest (filling.add ['%'])
  | count + 1, '%' :: rest, filling =>
      let (slot, behind, filling) := takeSlot rest filling
      match behind with
      | [] => { filling with isOver := true, problem := some "missing format character" }
      | kind :: behind =>
          let directive := '%' :: rest.take (rest.length - behind.length)
          let filled := fill slot kind (String.ofList directive) filling
          if filled.isOver then filled else fillOnce count behind filled
  | count + 1, character :: rest, filling => fillOnce count rest (filling.add [character])

def fillAll (format : List Char) : Nat → Filling → Filling
  | 0, filling => filling
  | count + 1, filling =>
      let filled := fillOnce format.length format filling
      if filled.isOver || filled.arguments = [] ||
          filled.arguments.length = filling.arguments.length then filled
      else fillAll format count filled

def formatted (format : String) (arguments : List String) : Filling :=
  fillAll format.toList (arguments.length + 1) { arguments }

end SnippetSandbox.Shell
