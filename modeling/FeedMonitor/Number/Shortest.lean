import FeedMonitor.Number.Binary64

/-!
The fewest decimal digits that name a double.

For a growing number of digits the two neighbours of a number on that decimal grid are tried; the
first grid on which one of them rounds back to the number wins, and of two the nearer one.
-/

namespace FeedMonitor.Binary64

/-- A decimal `digits * 10 ^ power`. -/
structure Decimal where
  digits : Nat
  power : Int
deriving DecidableEq

def Decimal.numerator (d : Decimal) : Nat := d.digits * Nat.pow 10 d.power.toNat

def Decimal.denominator (d : Decimal) : Nat := Nat.pow 10 (-d.power).toNat

/-- Whether the magnitude of `x` is the one nearest to `d`. -/
def Decimal.names (d : Decimal) (x : Binary64) : Bool :=
  round d.numerator d.denominator == x.magnitude

/-- The number of decimal digits of `n`; zero has none. -/
def digitCount (n : Nat) : Nat :=
  if n = 0 then 0 else (Nat.toDigits 10 n).length

/-- The power of ten of the first digit of `num / den`, which is not zero. -/
def leadingPower (num den : Nat) : Int :=
  if den ≤ num then (digitCount (num / den) : Int) - 1
  else -(digitCount ((den + num - 1) / num - 1) : Int)

/-- The neighbour of `num / den` among the multiples of `10 ^ power` that rounds back to `x`, the
nearer one if both do. -/
def onGrid (x : Binary64) (power : Int) : Option Decimal :=
  let num := x.numerator * Nat.pow 10 (-power).toNat
  let den := x.denominator * Nat.pow 10 power.toNat
  let below : Decimal := ⟨num / den, power⟩
  let above : Decimal := ⟨num / den + 1, power⟩
  let rest := 2 * (num % den)
  let upward := den < rest || (rest == den && below.digits % 2 == 1)
  match below.names x, above.names x with
  | true, true => some (if upward then above else below)
  | true, false => some below
  | false, true => some above
  | false, false => none

/-- Seventeen digits always suffice. -/
def shortest (x : Binary64) : Decimal :=
  let lead := leadingPower x.numerator x.denominator
  ((List.range 17).findSome? fun (n : Nat) => onGrid x (lead - n)).getD ⟨0, 0⟩

end FeedMonitor.Binary64
