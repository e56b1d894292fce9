/-!
Header fields of requests and answers.

Names are compared without regard to ASCII case. A value is a row of bytes.
-/

namespace FeedMonitor.Web

structure Header where
  name : String
  value : List UInt8
deriving DecidableEq

namespace Header

/-- A byte that a value may have: all but control bytes, and the tab. -/
def isLegal (byte : UInt8) : Bool := (32 ≤ byte && byte != 127) || byte == 9

/-- A byte that is a character of its own: a visible one, a space or a tab. -/
def isPlain (byte : UInt8) : Bool := (32 ≤ byte && byte < 127) || byte == 9

/-- The field with a text as its value, if a value may hold that text. -/
def ofText? (name text : String) : Option Header :=
  let bytes := text.toUTF8.toList
  if bytes.all isLegal then some ⟨name, bytes⟩ else none

/-- The value as a text, if all its bytes are plain. -/
def text? (header : Header) : Option String :=
  if header.value.all isPlain then
    some (String.ofList (header.value.map fun byte => Char.ofNat byte.toNat))
  else none

def hasName (header : Header) (name : String) : Bool :=
  header.name.toList.map Char.toLower == name.toList.map Char.toLower

/-- The first field of a name. -/
def find? (headers : List Header) (name : String) : Option Header :=
  headers.find? fun header => header.hasName name

theorem isLegal_of_isPlain {byte : UInt8} (plain : isPlain byte = true) : isLegal byte = true := by
  simp only [isPlain, Bool.or_eq_true, Bool.and_eq_true, decide_eq_true_eq] at plain
  simp only [isLegal, Bool.or_eq_true, Bool.and_eq_true, decide_eq_true_eq, bne_iff_ne]
  rcases plain with ⟨visible, below⟩ | tab
  · exact Or.inl ⟨visible, fun same => by subst same; exact absurd below (by decide)⟩
  · exact Or.inr tab

end Header

end FeedMonitor.Web
