import SnippetSandbox.Instances

/-!
# Binary floating-point numbers

A finite binary number is a sign, a whole significand and a power of two.  The
double-precision format stores it in 64 bits: eleven bits of exponent, biased,
and fifty-two bits of significand below a leading bit that is left out.
-/

namespace SnippetSandbox.Decimal

/-- The number `± significand * 2 ^ exponent`.  `onBoundary` tells that the next
smaller representable number is only half as far away as the next larger one. -/
structure Binary where
  negative : Bool
  significand : Nat
  exponent : Int
  onBoundary : Bool
  deriving DecidableEq, Repr

/-- The number that 64 bits stand for in double precision.  Infinities and
values that are not numbers have no digits and are read as if they were finite. -/
def Binary.ofBits (bits : UInt64) : Binary :=
  let stored : Nat := bits.toNat % 2 ^ 52
  let biased : Nat := bits.toNat / 2 ^ 52 % 2 ^ 11
  let negative := bits.toNat / 2 ^ 63 == 1
  if biased = 0 then ⟨negative, stored, -1074, false⟩
  else ⟨negative, stored + 2 ^ 52, (biased : Int) - 1075, stored == 0 && 1 < biased⟩

end SnippetSandbox.Decimal
