/-!
Finite double-precision numbers with exact arithmetic.

A number is a sign and the 63 bits below it, so the order of magnitudes is the order of those bits.
Every operation forms the exact rational result and rounds it once: to the nearest representable
number, a half to the one whose last bit is even. A result too large for the format is `none`.
-/

namespace FeedMonitor

/-- How many fractions there are, of fifty-two bits. -/
def Binary64.fractions : Nat := 0x10000000000000

/-- The bits below the sign of the first magnitude that is no longer finite. -/
def Binary64.limit : Nat := 2047 * Binary64.fractions

structure Binary64 where
  negative : Bool
  /-- Eleven bits of exponent above fifty-two bits of fraction. -/
  magnitude : Nat
  finite : magnitude < Binary64.limit
deriving DecidableEq

namespace Binary64

def ofMagnitude? (negative : Bool) (magnitude : Nat) : Option Binary64 :=
  if h : magnitude < limit then some ⟨negative, magnitude, h⟩ else none

def zero (negative : Bool) : Binary64 := ⟨negative, 0, by decide⟩

instance : Inhabited Binary64 := ⟨zero false⟩

/-- The sixty-four bits of the format, read as a number. -/
def bits (x : Binary64) : Nat :=
  (if x.negative then 0x8000000000000000 else 0) + x.magnitude

/-- The magnitude of `x` is `significand x * 2 ^ exponent x`. -/
def significand (x : Binary64) : Nat :=
  if x.magnitude < fractions then x.magnitude else fractions + x.magnitude % fractions

def exponent (x : Binary64) : Int :=
  if x.magnitude < fractions then -1074 else (x.magnitude / fractions : Nat) - 1075

/-- The magnitude of `x` is the ratio `numerator x / denominator x`. -/
def numerator (x : Binary64) : Nat := x.significand * Nat.pow 2 x.exponent.toNat

def denominator (x : Binary64) : Nat := Nat.pow 2 (-x.exponent).toNat

def isZero (x : Binary64) : Bool := x.magnitude == 0

def isPositive (x : Binary64) : Bool := !x.negative && x.magnitude != 0

def negate (x : Binary64) : Binary64 := { x with negative := !x.negative }

/-- Whether `x` is greater than the whole number `bound`. -/
def exceeds (x : Binary64) (bound : Nat) : Bool :=
  !x.negative && bound * x.denominator < x.numerator

/-- The whole number nearest to `num / den`, a half going to the even neighbour. -/
def nearestEven (num den : Nat) : Nat :=
  let quotient := num / den
  let rest := 2 * (num % den)
  if rest < den then quotient
  else if den < rest then quotient + 1
  else quotient + quotient % 2

/-- The exponent of the last place of a number of magnitude `num / den`: the one that leaves
fifty-three bits before the point, but never below that of the smallest number. -/
def lastPlace (num den : Nat) : Int :=
  let guess : Int := (num.log2 : Int) - den.log2 - 52
  let short := num * Nat.pow 2 (-guess).toNat < fractions * (den * Nat.pow 2 guess.toNat)
  max (if short then guess - 1 else guess) (-1074)

/-- The magnitude nearest to `num / den`. A carry out of the fraction lands in the exponent. -/
def round (num den : Nat) : Nat :=
  if num = 0 then 0
  else
    let place := lastPlace num den
    (place + 1074).toNat * fractions
      + nearestEven (num * Nat.pow 2 (-place).toNat) (den * Nat.pow 2 place.toNat)

def ofRatio? (negative : Bool) (num den : Nat) : Option Binary64 :=
  ofMagnitude? negative (round num den)

def ofInt? (n : Int) : Option Binary64 := ofRatio? (n < 0) n.natAbs 1

def mul? (x y : Binary64) : Option Binary64 :=
  ofRatio? (x.negative != y.negative) (x.numerator * y.numerator) (x.denominator * y.denominator)

/-- The quotient by a number that is not zero. -/
def div? (x y : Binary64) : Option Binary64 :=
  ofRatio? (x.negative != y.negative) (x.numerator * y.denominator) (x.denominator * y.numerator)

/-- The whole number nearest to the magnitude of `x`, a half going up. -/
def nearestWhole (x : Binary64) : Nat :=
  (2 * x.numerator + x.denominator) / (2 * x.denominator)

/-- `digits * 10 ^ power`, rounded. Powers that leave the format whatever the digits are not formed. -/
def ofDecimal? (negative : Bool) (digits : Nat) (power : Int) : Option Binary64 :=
  let top := power + (Nat.toDigits 10 digits).length
  if digits = 0 then some (zero negative)
  else if 310 < top then none
  else if top < -330 then some (zero negative)
  else ofRatio? negative (digits * Nat.pow 10 power.toNat) (Nat.pow 10 (-power).toNat)

/-- The positive numbers are ordered by their magnitudes. -/
theorem isPositive_iff {x : Binary64} :
    x.isPositive = true ↔ x.negative = false ∧ x.magnitude ≠ 0 := by
  simp [isPositive]

theorem isZero_of_isPositive {x : Binary64} (positive : x.isPositive = true) :
    x.isZero = false := by
  obtain ⟨-, nonzero⟩ := isPositive_iff.mp positive
  simpa [isZero] using nonzero

end Binary64

end FeedMonitor
