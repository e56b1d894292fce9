import FeedMonitor.Text.Hex

/-!
Unique texts: random UUIDs of version four.

Thirty-two digits stand in groups of 8, 4, 4, 4 and 12. The first digit of the third group is the
version and the two high bits of the fourth group are the variant; the rest is random.
-/

namespace FeedMonitor.Unique

/-- The text of a random number of 122 bits. -/
def ofRandom (n : Nat) : String :=
  let group (width shift : Nat) : String := Text.hexPadded width (n / Nat.pow 2 shift % Nat.pow 16 width)
  let variant := Text.hexPadded 4 (0x8000 + n / 0x1000000000000 % 0x4000)
  String.intercalate "-" [group 8 90, group 4 74, "4" ++ group 3 62, variant, group 12 0]

def isDigit (c : Char) : Bool := c.isDigit || ('a' ≤ c && c ≤ 'f')

/-- Whether a text is one of a random UUID. -/
def isUnique (text : String) : Bool :=
  text.length == 36 && text.toList.zipIdx.all fun (c, index) =>
    if [8, 13, 18, 23].contains index then c == '-'
    else if index == 14 then c == '4'
    else if index == 19 then ['8', '9', 'a', 'b'].contains c
    else isDigit c

end FeedMonitor.Unique
