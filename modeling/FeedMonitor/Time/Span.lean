/-!
Lengths of time, in whole nanoseconds.
-/

namespace FeedMonitor

structure Span where
  nanos : Nat
deriving DecidableEq, Inhabited

namespace Span

def ofMillis (n : Nat) : Span := ⟨n * 1000000⟩

def ofSeconds (n : Nat) : Span := ⟨n * 1000000000⟩

/-- The longest span there is: its seconds have sixty-four bits. -/
def longest : Span := ⟨0xffffffffffffffff * 1000000000 + 999999999⟩

/-- A span many times over, and the longest one if that would be longer. -/
def times (span : Span) (factor : Nat) : Span := ⟨min (span.nanos * factor) longest.nanos⟩

def isZero (span : Span) : Bool := span.nanos == 0

def seconds (span : Span) : Nat := span.nanos / 1000000000

def subsecond (span : Span) : Nat := span.nanos % 1000000000

def millis (span : Span) : Nat := span.nanos / 1000000

/-- The digits of a fraction of `places` places, without zeros at the end. -/
def fractionDigits (places fraction : Nat) : List Char :=
  let digits := Nat.toDigits 10 fraction
  ((List.replicate (places - digits.length) '0' ++ digits).reverse.dropWhile (· == '0')).reverse

/-- `amount / 10 ^ places` in decimals, followed by the unit. -/
def scaledText (amount places : Nat) (unit : String) : String :=
  let whole := toString (amount / Nat.pow 10 places)
  let fraction := fractionDigits places (amount % Nat.pow 10 places)
  if fraction.isEmpty then whole ++ unit
  else whole ++ "." ++ String.ofList fraction ++ unit

/-- A span in the largest of the units s, ms, µs and ns in which it is at least one. -/
def text (span : Span) : String :=
  if 1000000000 ≤ span.nanos then scaledText span.nanos 9 "s"
  else if 1000000 ≤ span.nanos then scaledText span.nanos 6 "ms"
  else if 1000 ≤ span.nanos then scaledText span.nanos 3 "µs"
  else scaledText span.nanos 0 "ns"

end Span

end FeedMonitor
