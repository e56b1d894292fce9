import FeedMonitor.Json.Value
import FeedMonitor.Number.Shortest
import FeedMonitor.Text.Hex

/-!
The text of a JSON value: no blanks, members in their order, reals by their shortest digits.
-/

namespace FeedMonitor.Json

/-- Quotes, backslashes and control characters are escaped and nothing else is. -/
def writeChar (c : Char) : List Char :=
  if c = '"' then ['\\', '"']
  else if c = '\\' then ['\\', '\\']
  else if c = '\n' then ['\\', 'n']
  else if c = '\r' then ['\\', 'r']
  else if c = '\t' then ['\\', 't']
  else if c = '\x08' then ['\\', 'b']
  else if c = '\x0c' then ['\\', 'f']
  else if c.toNat < 0x20 then
    ['\\', 'u', '0', '0', Text.hexDigit (c.toNat / 16), Text.hexDigit (c.toNat % 16)]
  else [c]

def writeString (s : String) : List Char :=
  '"' :: s.toList.flatMap writeChar ++ ['"']

def writeInt (n : Int) : List Char :=
  if n < 0 then '-' :: Nat.toDigits 10 n.natAbs else Nat.toDigits 10 n.natAbs

/-- Digits without zeros at their end, one digit at least, and how many zeros were taken off. -/
def stripZeros (digits : List Char) : List Char × Nat :=
  let stripped := (digits.reverse.dropWhile (· == '0')).reverse
  (stripped, digits.length - stripped.length)

/-- The digits `d₁d₂…` of a number `d₁.d₂… * 10 ^ lead`: in positional notation from `1e-5` up to
below `1e16`, with a fraction always, and with a signed exponent outside. -/
def layoutReal (digits : List Char) (lead : Int) : List Char :=
  if lead < -5 || 16 ≤ lead then
    let fraction := digits.drop 1
    digits.take 1 ++ (if fraction.isEmpty then [] else '.' :: fraction)
      ++ 'e' :: (if lead < 0 then '-' else '+') :: Nat.toDigits 10 lead.natAbs
  else if lead < 0 then
    '0' :: '.' :: List.replicate (lead.natAbs - 1) '0' ++ digits
  else
    let places := lead.toNat + 1
    let whole := digits.take places ++ List.replicate (places - digits.length) '0'
    let fraction := digits.drop places
    whole ++ '.' :: (if fraction.isEmpty then ['0'] else fraction)

def writeReal (x : Binary64) : List Char :=
  let sign := if x.negative then ['-'] else []
  if x.isZero then sign ++ ['0', '.', '0']
  else
    let decimal := x.shortest
    let (digits, taken) := stripZeros (Nat.toDigits 10 decimal.digits)
    sign ++ layoutReal digits (decimal.power + taken + digits.length - 1)

def Number.write : Number → List Char
  | .whole n => writeInt n
  | .real x => writeReal x

mutual

def write : Json → List Char
  | .null => ['n', 'u', 'l', 'l']
  | .bool true => ['t', 'r', 'u', 'e']
  | .bool false => ['f', 'a', 'l', 's', 'e']
  | .number n => n.write
  | .string s => writeString s
  | .array items => '[' :: writeItems items ++ [']']
  | .object members => '\x7b' :: writeMembers members ++ ['\x7d']

def writeItems : List Json → List Char
  | [] => []
  | [item] => item.write
  | item :: next :: rest => item.write ++ ',' :: writeItems (next :: rest)

def writeMembers : List (String × Json) → List Char
  | [] => []
  | [(name, value)] => writeString name ++ ':' :: value.write
  | (name, value) :: next :: rest =>
    writeString name ++ ':' :: value.write ++ ',' :: writeMembers (next :: rest)

end

/-- An object whose members stand in the order given. -/
def writeFields (fields : List (String × Json)) : List Char :=
  '\x7b' :: writeMembers fields ++ ['\x7d']

def render (value : Json) : String := String.ofList value.write

end FeedMonitor.Json
