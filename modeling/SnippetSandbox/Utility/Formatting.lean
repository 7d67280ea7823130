import SnippetSandbox.Shell.Format
import SnippetSandbox.Utility.Report

/-!
# A program for formatted output

The program fills its arguments into a format that is used again until no argument is
left.  It knows more escapes and sizes of numbers than the command of the same name, and
complains about arguments that are never used.
-/

namespace SnippetSandbox.Utility

open FileSystem Kernel Shell

namespace Formatting

/-- What an escape stands for. -/
inductive Escaped
  | shown (characters rest : List Char)
  | over
  | wrong (problem : String)

def paddedDigits (length : Nat) (digits : List Char) : List Char :=
  List.replicate (length - digits.length) '0' ++ digits

/-- The character with the number that so many hexadecimal digits spell.  One that is no
single byte is written as an escape. -/
def readCharacter (letter : Char) (length : Nat) (text : List Char) : Escaped :=
  let digits := (text.take length).takeWhile isHex
  if digits.length < length then .wrong "missing hexadecimal number in escape"
  else
    let value := hexadecimalValue digits
    let isBasic := value ≤ 0x9f && !([0x24, 0x40, 0x60] : List Nat).contains value
    if isBasic || (0xd800 ≤ value && value ≤ 0xdfff) then
      .wrong ("invalid universal character name \\" ++
        String.ofList (letter :: paddedDigits length (Nat.toDigits 16 value)))
    else
      let rest := text.drop length
      if value < 0x80 then .shown [Char.ofNat value] rest
      else
        let written := (Nat.toDigits 16 value).map Char.toUpper
        if value < 0x10000 then .shown ('\\' :: 'u' :: paddedDigits 4 written) rest
        else .shown ('\\' :: 'U' :: paddedDigits 8 written) rest

/-- What an escape stands for, behind its backslash.  In an argument, one more zero may
stand in front of octal digits. -/
def readEscape (isArgument : Bool) (text : List Char) : Escaped :=
  match text with
  | [] => .shown ['\\'] []
  | 'c' :: _ => .over
  | '"' :: rest => .shown ['"'] rest
  | 'x' :: rest =>
      let digits := (rest.take 2).takeWhile isHex
      if digits = [] then .wrong "missing hexadecimal number in escape"
      else .shown [Char.ofNat (hexadecimalValue digits)] (rest.drop digits.length)
  | 'u' :: rest => readCharacter 'u' 4 rest
  | 'U' :: rest => readCharacter 'U' 8 rest
  | '0' :: rest =>
      let digits := takeOctal (if isArgument then rest else text)
      .shown [octalByte digits] ((if isArgument then rest else text).drop digits.length)
  | character :: rest =>
      if isOctal character then
        let digits := takeOctal text
        .shown [octalByte digits] (text.drop digits.length)
      else
        match escapedCharacter? character with
        | some meant => .shown [meant] rest
        | none => .shown ['\\', character] rest

def put (characters : List Char) : Work Unit := Work.say (String.ofList characters)

/-- Write an argument with its escapes carried out; the result tells whether the output
goes on.  `count` bounds the number of steps. -/
def putEscaped (program : String) : Nat → List Char → Work Bool
  | 0, _ | _, [] => return true
  | count + 1, '\\' :: rest => do
      match readEscape true rest with
      | .shown characters behind =>
          put characters
          putEscaped program count behind
      | .over => return false
      | .wrong problem =>
          Work.refuse program problem 1
          return false
  | count + 1, character :: rest => do
      put [character]
      putEscaped program count rest

/-- The number that an argument stands for, with complaints about what is wrong with it:
the number of a character behind a quote, or what `measure` makes of it. -/
def numberFrom {Value : Type} (program : String) (measure : List Char → Measured Value)
    (ofCode : Nat → Value) (argument : String) : Work Value := do
  match argument.toList with
  | '"' :: character :: rest | '\'' :: character :: rest =>
      if rest ≠ [] then
        Work.warn program ("warning: " ++ String.ofList rest ++
          ": character(s) following character constant have been ignored")
      return ofCode character.toNat
  | characters =>
      let measured := measure characters
      if measured.isOutOfRange then
        Work.refuse program (quoteText argument ++ ": Numerical result out of range") 1
      else if measured.rest ≠ [] then
        let problem :=
          if measured.isStarted then ": value not completely converted"
          else ": expected a numeric value"
        Work.refuse program (quoteText argument ++ problem) 1
      return measured.value

def wholeFrom (program : String) (isSigned : Bool) : String → Work Int :=
  numberFrom program (measureWhole isSigned) Int.ofNat

/-- A gap in a format for a value: how the value is fitted into it, and the kinds of
values that may stand there. -/
structure Gap where
  slot : Slot := {}
  kinds : List Char := "diouxXeEfFgGaAcs".toList

def Gap.without (kinds : String) (gap : Gap) : Gap :=
  { gap with kinds := gap.kinds.filter fun kind => !kinds.toList.contains kind }

def readFlags : List Char → Gap → Gap × List Char
  | '-' :: rest, gap => readFlags rest { gap with slot.left := true }
  | '+' :: rest, gap => readFlags rest { gap with slot.plus := true }
  | ' ' :: rest, gap => readFlags rest { gap with slot.space := true }
  | '#' :: rest, gap =>
      readFlags rest (({ gap with slot.alternate := true } : Gap).without "cdisu")
  | '0' :: rest, gap => readFlags rest (({ gap with slot.zeros := true } : Gap).without "cs")
  | 'I' :: rest, gap | '\'' :: rest, gap => readFlags rest (gap.without "aAceEosxX")
  | rest, gap => (gap, rest)

/-- A size of a gap, if there is one, what follows it, and the arguments that are left
if the size is one of them. -/
def readSize (program : String) (text : List Char) (arguments : List String) :
    Work (Option Int × List Char × List String) := do
  match text with
  | '*' :: rest =>
      let size ← wholeFrom program true (arguments.headD "")
      return (some size, rest, arguments.tail)
  | _ =>
      let digits := text.takeWhile Char.isDigit
      let size := if digits = [] then none else some (Int.ofNat (Text.number digits))
      return (size, text.drop digits.length, arguments)

def putValue (program : String) (slot : Slot) (kind : Char) (argument : String) :
    Work Unit := do
  if kind = 's' then put (slot.fit (slot.cut argument.toList))
  else if kind = 'c' then put (slot.fit [argument.toList.headD '\x00'])
  else if "diouxX".toList.contains kind then
    put (slot.number kind (← wholeFrom program (kind = 'd' || kind = 'i') argument))
  else
    let ofCode (code : Nat) : Decimal.Double := (Decimal.Double.ofQuotient false code 1).1
    put (slot.real kind (← numberFrom program measureReal ofCode argument))

/-- One pass over a format.  The result is what is left of the arguments, if the output
goes on.  `count` bounds the number of steps. -/
def fillOnce (program : String) :
    Nat → List Char → List String → Work (Option (List String))
  | 0, _, arguments | _, [], arguments => return some arguments
  | count + 1, '\\' :: rest, arguments => do
      match readEscape false rest with
      | .shown characters behind =>
          put characters
          fillOnce program count behind arguments
      | .over => return none
      | .wrong problem =>
          Work.refuse program problem 1
          return none
  | count + 1, '%' :: '%' :: rest, arguments => do
      put ['%']
      fillOnce program count rest arguments
  | count + 1, '%' :: 'b' :: rest, arguments => do
      let text := (arguments.headD "").toList
      if ← putEscaped program text.length text then
        fillOnce program count rest arguments.tail
      else return none
  | count + 1, '%' :: 'q' :: rest, arguments => do
      Work.say ((arguments.head?.map showName).getD "")
      fillOnce program count rest arguments.tail
  | count + 1, '%' :: rest, arguments => do
      let (gap, text) := readFlags rest {}
      let (width, text, arguments) ← readSize program text arguments
      let width := width.getD 0
      let slot :=
        { gap.slot with width := width.natAbs, left := gap.slot.left || width < 0 }
      let (gap, text, arguments) ← match text with
        | '.' :: behind => do
            let (precision, text, arguments) ← readSize program behind arguments
            let precision := precision.getD 0
            let slot :=
              { slot with precision := if precision < 0 then none else some precision.toNat }
            pure (({ gap with slot } : Gap).without "c", text, arguments)
        | _ => pure ({ gap with slot }, text, arguments)
      match text.dropWhile "lLhjtz".toList.contains with
      | [] =>
          Work.refuse program
            ("%" ++ String.ofList rest ++ ": invalid conversion specification") 1
          return none
      | kind :: behind =>
          if gap.kinds.contains kind then
            putValue program gap.slot kind (arguments.headD "")
            fillOnce program count behind arguments.tail
          else
            let directive := '%' :: rest.take (rest.length - behind.length)
            Work.refuse program
              (String.ofList directive ++ ": invalid conversion specification") 1
            return none
  | count + 1, character :: rest, arguments => do
      put [character]
      fillOnce program count rest arguments

def fillAll (program : String) (format : List Char) : Nat → List String → Work Unit
  | 0, _ => return ()
  | count + 1, arguments => do
      match ← fillOnce program format.length format arguments with
      | none | some [] => return ()
      | some left =>
          if left.length < arguments.length then fillAll program format count left
          else
            Work.warn program
              ("warning: ignoring excess arguments, starting with " ++ quoteText (left.headD ""))

end Formatting

def printWords (program : String) (arguments : List String) : Program Nat := do
  match if arguments.head? = some "--" then arguments.tail else arguments with
  | [] => missingOperand program []
  | format :: given =>
      Work.finish program 1 (Formatting.fillAll program format.toList (given.length + 1) given)

end SnippetSandbox.Utility
