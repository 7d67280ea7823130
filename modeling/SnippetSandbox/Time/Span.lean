import SnippetSandbox.Text.Digits

/-!
# Spans of time

A span is a whole number of nanoseconds.  It is written in the largest of the
units s, ms, µs and ns of which it holds at least one, with as many decimal
places as it needs and no more.
-/

namespace SnippetSandbox.Time

open Text

/-- A length of time. -/
structure Span where
  nanoseconds : Nat
  deriving DecidableEq, Repr

namespace Span

/-- How many nanoseconds make a second. -/
def perSecond : Nat := 1000000000

def ofSeconds (seconds : Nat) : Span :=
  ⟨seconds * perSecond⟩

def ofMilliseconds (milliseconds : Nat) : Span :=
  ⟨milliseconds * 1000000⟩

/-- A fraction below one, given as a number of this many decimal places: a point
and its digits without the zeros at the end, or nothing for zero. -/
def fractionDigits (places fraction : Nat) : List Char :=
  if fraction = 0 then []
  else '.' :: ((paddedDigits places fraction).reverse.dropWhile (· == '0')).reverse

/-- An amount of a unit that holds `10 ^ places` nanoseconds. -/
def amount (places total : Nat) (unit : String) : String :=
  String.ofList
      (digits (total / 10 ^ places) ++ fractionDigits places (total % 10 ^ places)) ++ unit

def text (span : Span) : String :=
  if perSecond ≤ span.nanoseconds then amount 9 span.nanoseconds "s"
  else if 1000000 ≤ span.nanoseconds then amount 6 span.nanoseconds "ms"
  else if 1000 ≤ span.nanoseconds then amount 3 span.nanoseconds "µs"
  else amount 0 span.nanoseconds "ns"

end Span

end SnippetSandbox.Time
