import SnippetSandbox.Decimal.Binary
import SnippetSandbox.Text.Digits

/-!
# The shortest decimal that reads back

Of all decimals that lie closer to a binary number than to its neighbours, the
shortest is chosen, and of several such the one nearest to the number.  The
numbers between which a decimal must lie are halfway to the neighbours; the
halfway points themselves count when the significand is even, because reading
rounds them to even.  Everything is decided in whole numbers.
-/

namespace SnippetSandbox.Decimal

open Text

/-- The decimal `coefficient * 10 ^ exponent`. -/
structure Scientific where
  coefficient : Nat
  exponent : Int
  deriving DecidableEq, Repr

/-- A number and the halfway points to its neighbours, over one denominator. -/
structure Interval where
  low : Nat
  value : Nat
  high : Nat
  denominator : Nat
  closed : Bool

def Binary.interval (binary : Binary) : Interval :=
  let scale := if 0 ≤ binary.exponent then 2 ^ binary.exponent.toNat else 1
  let denominator := if 0 ≤ binary.exponent then 4 else 4 * 2 ^ (-binary.exponent).toNat
  let value := 4 * binary.significand * scale
  { low := value - (if binary.onBoundary then 1 else 2) * scale
    value
    high := value + 2 * scale
    denominator
    closed := binary.significand % 2 == 0 }

/-- The decimal with this coefficient and exponent lies in the interval. -/
def Interval.admits (interval : Interval) (coefficient : Nat) (exponent : Int) : Bool :=
  let scaled := coefficient * interval.denominator *
    (if 0 ≤ exponent then 10 ^ exponent.toNat else 1)
  let unit := if 0 ≤ exponent then 1 else 10 ^ (-exponent).toNat
  if interval.closed then interval.low * unit ≤ scaled && scaled ≤ interval.high * unit
  else interval.low * unit < scaled && scaled < interval.high * unit

/-- The multiple of `10 ^ exponent` just below the value, and twice what is left
over, measured against one whole step. -/
def Interval.floor (interval : Interval) (exponent : Int) : Nat × Nat × Nat :=
  let numerator := interval.value * (if 0 ≤ exponent then 1 else 10 ^ (-exponent).toNat)
  let step := interval.denominator * (if 0 ≤ exponent then 10 ^ exponent.toNat else 1)
  (numerator / step, 2 * (numerator % step), step)

/-- The better of the two multiples of `10 ^ exponent` around the value, if either
lies in the interval; a tie goes to the even one. -/
def Interval.candidate (interval : Interval) (exponent : Int) : Option Nat :=
  let (below, twiceRest, step) := interval.floor exponent
  let lowerFits := interval.admits below exponent
  let upperFits := interval.admits (below + 1) exponent
  let lowerNearer := twiceRest < step || (twiceRest == step && below % 2 == 0)
  if lowerFits && (lowerNearer || !upperFits) then some below
  else if upperFits then some (below + 1)
  else none

/-- Try the powers of ten downward, coarsest first. -/
def Interval.search (interval : Interval) : Nat → Int → Scientific
  | 0, exponent => ⟨(interval.floor exponent).1, exponent⟩
  | fuel + 1, exponent =>
      match interval.candidate exponent with
      | some coefficient => ⟨coefficient, exponent⟩
      | none => interval.search fuel (exponent - 1)

/-- Move zeros at the end of the coefficient into the exponent. -/
def Scientific.reduce : Nat → Scientific → Scientific
  | 0, decimal => decimal
  | fuel + 1, decimal =>
      if decimal.coefficient % 10 = 0 ∧ decimal.coefficient ≠ 0 then
        Scientific.reduce fuel ⟨decimal.coefficient / 10, decimal.exponent + 1⟩
      else decimal

/-- The shortest decimal that reads back as a number other than zero.  No double
reaches `10 ^ 309` and none needs a digit below `10 ^ -341`. -/
def Binary.shortest (binary : Binary) : Scientific :=
  Scientific.reduce 20 (binary.interval.search 660 310)

/-- How a decimal is laid out as a text. -/
structure Layout where
  /-- The smallest exponent of the first digit that is still written in place. -/
  lowestPlain : Int
  /-- The largest exponent of the first digit that is still written in place. -/
  highestPlain : Int

/-- A whole number written in place ends in `.0`; a written exponent always shows
its sign. -/
def Layout.lay (layout : Layout) (decimal : Scientific) : List Char :=
  let shown := digits decimal.coefficient
  let first := decimal.exponent + (shown.length : Int) - 1
  if layout.lowestPlain ≤ first ∧ first ≤ layout.highestPlain then
    if 0 ≤ decimal.exponent then
      shown ++ List.replicate decimal.exponent.toNat '0' ++ ['.', '0']
    else if 0 ≤ first then
      shown.take (first.toNat + 1) ++ '.' :: shown.drop (first.toNat + 1)
    else
      ['0', '.'] ++ List.replicate ((-first).toNat - 1) '0' ++ shown
  else
    let fraction := if shown.length ≤ 1 then [] else '.' :: shown.drop 1
    shown.take 1 ++ fraction ++ ['e', if first < 0 then '-' else '+'] ++
      digits first.natAbs

/-- A binary number in the shortest digits that read back. -/
def Binary.text (layout : Layout) (binary : Binary) : String :=
  let sign := if binary.negative then "-" else ""
  if binary.significand = 0 then sign ++ "0.0"
  else sign ++ String.ofList (layout.lay binary.shortest)

end SnippetSandbox.Decimal
