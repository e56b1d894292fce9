import FeedMonitor.Text.Hex

/-!
Percent encoding of the bytes of a text.
-/

namespace FeedMonitor.Web

def encodeByte (byte : UInt8) : List Char :=
  ['%', (Text.hexDigit (byte.toNat / 16)).toUpper, (Text.hexDigit (byte.toNat % 16)).toUpper]

/-- Encodes the characters of a class and everything outside ASCII. -/
def percentEncode (reserved : Char → Bool) (cs : List Char) : List Char :=
  cs.flatMap fun c =>
    if reserved c || 0x7f ≤ c.toNat || c.toNat < 0x20 then
      (String.utf8EncodeChar c).flatMap encodeByte
    else [c]

def inFragment (c : Char) : Bool := c = ' ' || c = '"' || c = '<' || c = '>' || c = '\x60'

def inPath (c : Char) : Bool :=
  inFragment c || c = '#' || c = '?' || c = '\x7b' || c = '\x7d'

def inQuery (c : Char) : Bool := c = ' ' || c = '"' || c = '#' || c = '<' || c = '>'

def inSpecialQuery (c : Char) : Bool := inQuery c || c = '\''

/-- The bytes of a text, with those that are written as a percent sign and two digits. -/
def percentDecode : List Char → List UInt8
  | [] => []
  | '%' :: a :: b :: rest =>
    match Text.hexValue? a, Text.hexValue? b with
    | some high, some low => UInt8.ofNat (high * 16 + low) :: percentDecode rest
    | _, _ => '%'.toNat.toUInt8 :: percentDecode (a :: b :: rest)
  | c :: rest => String.utf8EncodeChar c ++ percentDecode rest

end FeedMonitor.Web
