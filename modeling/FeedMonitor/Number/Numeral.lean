import FeedMonitor.Number.Binary64

/-!
Numbers written in decimal digits.
-/

namespace FeedMonitor.Numeral

/-- The value of a string of digits, most significant first. -/
def ofDigits (digits : List Char) : Nat := Nat.ofDigitChars 10 digits 0

/-- The longest run of digits at the start of a text, and the text after it. -/
def takeDigits (cs : List Char) : List Char × List Char :=
  (cs.takeWhile Char.isDigit, cs.dropWhile Char.isDigit)

/-- A whole number of at most `most`: digits after an optional plus sign, and nothing else. -/
def unsigned? (most : Nat) (s : String) : Option Nat :=
  let digits := match s.toList with
    | '+' :: rest => rest
    | cs => cs
  if digits.isEmpty || !digits.all Char.isDigit || most < ofDigits digits then none
  else some (ofDigits digits)

/-- Whether a sign was given that makes the number negative, and the text after the sign. -/
def takeSign : List Char → Bool × List Char
  | '-' :: rest => (true, rest)
  | '+' :: rest => (false, rest)
  | cs => (false, cs)

/-- The power of ten that follows the digits of a number: nothing, or `e` and a whole number. -/
def power? : List Char → Option Int
  | [] => some 0
  | c :: rest =>
    if c = 'e' || c = 'E' then
      let (negative, digits) := takeSign rest
      if digits.isEmpty || !digits.all Char.isDigit then none
      else some (if negative then -(ofDigits digits : Int) else ofDigits digits)
    else none

/-- The finite number nearest to a decimal such as `12`, `-.5`, `5.` or `1.7E9`. -/
def real? (s : String) : Option Binary64 :=
  let (negative, unsigned) := takeSign s.toList
  let (whole, rest) := takeDigits unsigned
  let (fraction, rest) := match rest with
    | '.' :: rest => takeDigits rest
    | _ => ([], rest)
  if whole.isEmpty && fraction.isEmpty then none
  else (power? rest).bind fun power =>
    Binary64.ofDecimal? negative (ofDigits (whole ++ fraction)) (power - fraction.length)

/-- Writing a number and reading its digits gives the number. -/
theorem ofDigits_toDigits (n : Nat) : ofDigits (Nat.toDigits 10 n) = n :=
  Nat.ofDigitChars_ten_toDigits

end FeedMonitor.Numeral
