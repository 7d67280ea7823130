import SnippetSandbox.Utility.Words

/-!
# Sequences of numbers

The numbers from a first to a last one are written, with some step between them and with
as many places behind the point as the first one or the step has.
-/

namespace SnippetSandbox.Utility

open Kernel Shell

/-- A number as it was written: a whole number of tenths, hundredths and so on, and the
width it takes. -/
structure Written where
  units : Int
  /-- How many places stand behind the point. -/
  places : Nat
  width : Nat
  isNegative : Bool
  isEndless : Bool := false

/-- What a text that should be a number is. -/
inductive Reading
  | number (written : Written)
  | noNumber
  | wrong

def Written.raise (exponent : Int) (written : Written) : Written :=
  if exponent < 0 then
    { written with places := written.places + exponent.natAbs, width := written.width + exponent.natAbs }
  else
    let raised := exponent.toNat
    let fewer := written.places - raised
    { written with
      units := written.units * 10 ^ (raised - written.places)
      places := fewer
      width := written.width + raised - written.places }

def readNumber (text : String) : Reading :=
  let characters := text.toList.dropWhile isSpace
  let (sign, rest) := takeSign characters
  let whole := rest.takeWhile Char.isDigit
  let (places, behind) : List Char × List Char := match rest.drop whole.length with
    | '.' :: fraction =>
        let places := fraction.takeWhile Char.isDigit
        (places, fraction.drop places.length)
    | other => ([], other)
  let signWidth := if sign < 0 then 1 else 0
  let digits := whole ++ places
  let written : Written :=
    { units := sign * Int.ofNat (Text.number digits)
      places := places.length
      width := signWidth + max 1 whole.length + if places = [] then 0 else places.length + 1
      isNegative := sign < 0 }
  if digits = [] then
    match Decimal.Double.read? (sign < 0) rest with
    | some (.infinite negative, _, []) =>
        .number { units := if negative then -1 else 1, places := 0, width := 3, isNegative := negative,
                  isEndless := true }
    | some (.undefined _, _, []) => .noNumber
    | _ => .wrong
  else
    match behind with
    | [] => .number written
    | letter :: exponent =>
        let (exponentSign, exponentDigits) := takeSign exponent
        if (letter = 'e' || letter = 'E') && exponentDigits ≠ [] && exponentDigits.all Char.isDigit then
          .number (written.raise (exponentSign * Int.ofNat (Text.number exponentDigits)))
        else if whole = ['0'] && places = [] && (letter = 'x' || letter = 'X') && exponent ≠ [] &&
            exponent.all isHex then
          .number { written with units := sign * Int.ofNat (hexadecimalValue exponent) }
        else .wrong

def Written.unitsOf (written : Written) (places : Nat) : Int :=
  written.units * 10 ^ (places - written.places)

def shownUnits (places : Nat) (units : Int) : List Char :=
  let digits := Text.paddedDigits (places + 1) units.natAbs
  let whole := digits.take (digits.length - places)
  let fraction := digits.drop (digits.length - places)
  (if units < 0 then ['-'] else []) ++ whole ++ if places = 0 then [] else '.' :: fraction

def padNumber (width : Nat) (shown : List Char) : List Char :=
  let missing := List.replicate (width - shown.length) '0'
  match shown with
  | '-' :: digits => '-' :: (missing ++ digits)
  | digits => missing ++ digits

/-- What is written of a sequence: its next number, its step and its end, in units of so
many places. -/
structure Progression where
  next : Int
  step : Int
  last : Int
  places : Nat
  shown : Int → List Char
  separator : String

def Progression.goesOn (progression : Progression) : Bool :=
  if progression.step < 0 then progression.last ≤ progression.next
  else progression.next ≤ progression.last

/-- How many numbers are written at once. -/
def numbersAtOnce : Nat := 1000

def Progression.take : Nat → Progression → List (List Char) → List (List Char) × Progression
  | 0, progression, texts => (texts, progression)
  | count + 1, progression, texts =>
      if progression.goesOn then
        let further := { progression with next := progression.next + progression.step }
        Progression.take count further
          (progression.shown progression.next :: progression.separator.toList :: texts)
      else (texts, progression)

def writeProgression (program : String) : Nat → Bool → Progression → Program Nat
  | 0, _, _ => return 0
  | rounds + 1, isFirst, progression => do
      let (texts, further) := progression.take numbersAtOnce []
      let parts := texts.reverse
      let ending := if further.goesOn then [] else ['\n']
      let text := ((if isFirst then parts.drop 1 else parts).flatten) ++ ending
      match ← writeOut (String.ofList text) with
      | some cause =>
          complainUnwritten program cause
          return 1
      | none => if further.goesOn then writeProgression program rounds false further else return 0

/-- A format for one number: the text in front of it, its slot and kind, and the text
behind it. -/
structure NumberFormat where
  before : List Char
  slot : Slot
  kind : Char
  after : List Char

/-- The text of a format up to its directive, in which two percent signs are one. -/
def plainFormat : Nat → List Char → List Char × List Char
  | 0, text => ([], text)
  | _, [] => ([], [])
  | count + 1, '%' :: '%' :: rest =>
      let (plain, behind) := plainFormat count rest
      ('%' :: plain, behind)
  | _, '%' :: rest => ([], '%' :: rest)
  | count + 1, character :: rest =>
      let (plain, behind) := plainFormat count rest
      (character :: plain, behind)

def numberFormat (format : String) : Except String NumberFormat :=
  let shown := "format " ++ quoteText format
  let (before, behind) := plainFormat format.length format.toList
  match behind with
  | [] => .error (shown ++ " has no % directive")
  | _ :: rest =>
      let (slot, rest, _) := takeSlot rest { arguments := [] }
      match rest with
      | [] => .error (shown ++ " ends in %")
      | kind :: rest =>
          if !"aefgAEFG".toList.contains kind then
            .error (shown ++ " has unknown %" ++ kind.toString ++ " directive")
          else
            let (after, more) := plainFormat rest.length rest
            if more = [] then .ok ⟨before, slot, kind, after⟩
            else .error (shown ++ " has too many % directives")

def NumberFormat.show (format : NumberFormat) (places : Nat) (units : Int) : List Char :=
  let (value, _) := Decimal.Double.ofQuotient (units < 0) units.natAbs (10 ^ places)
  format.before ++ format.slot.real format.kind value ++ format.after

/-- The options of a sequence.  What looks like a negative number is an operand. -/
def sequenceForms : List OptionForm :=
  [{ letter := 'f', word := "format", taking := .required },
    { letter := 's', word := "separator", taking := .required },
    { letter := 'w', word := "equal-width" }]

/-- The arguments with an end of options in front of the first that looks like a negative
number. -/
def guardNumbers : List String → List String
  | [] => []
  | argument :: others =>
      match argument.toList with
      | '-' :: next :: _ =>
          if argument = "--" then argument :: others
          else if next = '.' || next.isDigit then "--" :: argument :: others
          else if argument = "-f" || argument = "-s" then argument :: others.take 1 ++
            guardNumbers (others.drop 1)
          else argument :: guardNumbers others
      | _ => argument :: others
termination_by arguments => arguments.length

def writeSequence (program : String) (arguments : List String) : Program Nat :=
  withLeadingOptions program 1 sequenceForms (guardNumbers arguments) fun taken => do
    match taken.operands with
    | [] => return ← missingOperand program []
    | _ :: _ :: _ :: fourth :: _ => return ← extraOperand program fourth
    | _ => pure ()
    let format? := (taken.argument? 'f').map numberFormat
    if let some (.error problem) := format? then
      complain program problem
      return 1
    if taken.has 'w' && format?.isSome then
      return ← misuse program
        "format string may not be specified when printing equal width strings" 1
    let mut numbers : List Written := []
    for operand in taken.operands do
      match readNumber operand with
      | .number written => numbers := numbers ++ [written]
      | .noNumber =>
          return ← misuse program ("invalid 'not-a-number' argument: " ++ quoteText operand) 1
      | .wrong =>
          return ← misuse program ("invalid floating point argument: " ++ quoteText operand) 1
    let one : Written := { units := 1, places := 0, width := 1, isNegative := false }
    let (first, step, last) := match numbers with
      | [first, step, last] => (first, step, last)
      | [first, last] => (first, one, last)
      | [last] => (one, one, last)
      | _ => (one, one, one)
    if step.units = 0 then
      let shown := quoteText (taken.operands[1]?.getD "")
      return ← misuse program ("invalid Zero increment value: " ++ shown) 1
    let places := max first.places step.places
    let exact := max places last.places
    let scale : Int := 10 ^ (exact - places)
    let width (written : Written) : Nat :=
      written.width - written.places + places -
        (if written.places ≠ 0 && places = 0 then 1 else 0) +
        if written.places = 0 && places ≠ 0 then 1 else 0
    let padded := if taken.has 'w' then max (width first) (width last) else 0
    let plain (units : Int) : List Char :=
      let shown := shownUnits places (units / scale)
      let isNegativeZero := first.isNegative && first.units = 0 && units = 0
      padNumber padded (if isNegativeZero then '-' :: shown else shown)
    let shown := match format? with
      | some (.ok format) => format.show exact
      | _ => plain
    let progression : Progression :=
      { next := first.unitsOf exact
        step := if step.isEndless then 10 ^ 40 * step.units else step.unitsOf exact
        last := if last.isEndless then last.units * 10 ^ 60 else last.unitsOf exact
        places, shown, separator := (taken.argument? 's').getD "\n" }
    if progression.goesOn then writeProgression program Program.manyRounds true progression
    else return 0

end SnippetSandbox.Utility
