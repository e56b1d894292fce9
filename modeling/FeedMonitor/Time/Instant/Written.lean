import FeedMonitor.Time.Instant

/-!
The written form of an instant: `2024-01-02T03:04:05.500Z`.

The fraction has three, six or nine digits, as few as keep it whole, and none when it is zero. A
leap second is second 60. Years outside 0 to 9999 carry a sign.
-/

namespace FeedMonitor.Instant

/-- `n` with zeros in front up to `width` digits. -/
def padded (width n : Nat) : List Char :=
  let digits := Nat.toDigits 10 n
  List.replicate (width - digits.length) '0' ++ digits

def yearDigits (year : Int) : List Char :=
  if 0 ≤ year && year ≤ 9999 then padded 4 year.toNat
  else (if year < 0 then '-' else '+') :: padded 4 year.natAbs

def fraction (nanos : Nat) : List Char :=
  if nanos = 0 then []
  else if nanos % 1000000 = 0 then '.' :: padded 3 (nanos / 1000000)
  else if nanos % 1000 = 0 then '.' :: padded 6 (nanos / 1000)
  else '.' :: padded 9 nanos

def write (instant : Instant) : List Char :=
  let date := Date.ofDays instant.day
  let second := instant.secondOfDay
  yearDigits date.year ++ '-' :: padded 2 date.month ++ '-' :: padded 2 date.day
    ++ 'T' :: padded 2 (second / 3600) ++ ':' :: padded 2 (second / 60 % 60)
    ++ ':' :: padded 2 (second % 60 + instant.nanos / 1000000000)
    ++ fraction (instant.nanos % 1000000000) ++ ['Z']

def text (instant : Instant) : String := String.ofList instant.write

end FeedMonitor.Instant
