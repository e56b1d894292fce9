/-!
Digits of base sixteen.

Main statement: the digit written for a value below sixteen is read as that value.
-/

namespace FeedMonitor.Text

/-- The value of a digit, in either case. -/
def hexValue? (c : Char) : Option Nat :=
  if c.isDigit then some (c.toNat - '0'.toNat)
  else if 'a' ≤ c && c ≤ 'f' then some (c.toNat - 'a'.toNat + 10)
  else if 'A' ≤ c && c ≤ 'F' then some (c.toNat - 'A'.toNat + 10)
  else none

/-- The small digit of a value below sixteen. -/
def hexDigit (n : Nat) : Char := Nat.digitChar n

theorem hexValue?_hexDigit (n : Nat) (below : n < 16) : hexValue? (hexDigit n) = some n := by
  revert n
  decide

/-- The digits of a number, without a zero in front. -/
def hexDigits (n : Nat) : List Char := Nat.toDigits 16 n

/-- The digits of a number, at least `width` of them. -/
def hexPadded (width n : Nat) : String :=
  String.ofList (List.replicate (width - (hexDigits n).length) '0' ++ hexDigits n)

/-- The bytes that pairs of digits stand for. -/
def hexBytes? : List Char → Option (List UInt8)
  | [] => some []
  | [_] => none
  | a :: b :: rest => do
    return UInt8.ofNat ((← hexValue? a) * 16 + (← hexValue? b)) :: (← hexBytes? rest)

end FeedMonitor.Text
