import FeedMonitor.Number.Shortest

/-!
Reals in plain decimals: the shortest digits, a point where it is needed and never an exponent.
-/

namespace FeedMonitor.Binary64

/-- The digits of `d` with its zeros written out. -/
def Decimal.plain (d : Decimal) : List Char :=
  let digits := Nat.toDigits 10 d.digits
  if 0 ≤ d.power then digits ++ List.replicate d.power.toNat '0'
  else
    let places := (-d.power).toNat
    let padded := List.replicate (places + 1 - digits.length) '0' ++ digits
    padded.take (padded.length - places) ++ '.' :: padded.drop (padded.length - places)

def plainText (x : Binary64) : String :=
  let magnitude := if x.isZero then ['0'] else x.shortest.plain
  String.ofList (if x.negative then '-' :: magnitude else magnitude)

end FeedMonitor.Binary64
