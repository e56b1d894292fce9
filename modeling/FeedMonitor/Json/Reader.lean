import FeedMonitor.Json.Value
import FeedMonitor.Number.Numeral
import FeedMonitor.Text.Hex

/-!
Reading JSON text.

Every reader takes the text that is left and gives its result with the text after it. Whole numbers
that do not fit 64 bits become reals. Nesting is bounded.
-/

namespace FeedMonitor.Json

/-- Text that is no JSON, and JSON that is not of the shape asked for. -/
inductive Fault
  | malformed
  | mismatched
deriving DecidableEq

def skipBlanks : List Char → List Char :=
  List.dropWhile fun c => c == ' ' || c == '\n' || c == '\t' || c == '\r'

theorem skipBlanks_cons {c : Char} (visible : c ≠ ' ' ∧ c ≠ '\n' ∧ c ≠ '\t' ∧ c ≠ '\r')
    (cs : List Char) : skipBlanks (c :: cs) = c :: cs := by
  simp [skipBlanks, visible]

/-- The text after the word `word`, if it starts with it. -/
def readWord (word : List Char) (cs : List Char) : Except Fault (List Char) :=
  if word.isPrefixOf cs then .ok (cs.drop word.length) else .error .malformed

/-! ### Numbers -/

/-- The parts of a number as written; `power` is absent when none is written. -/
structure NumberText where
  negative : Bool
  whole : List Char
  fraction : List Char
  power : Option Int

def readPower : List Char → Except Fault (Option Int × List Char)
  | [] => .ok (none, [])
  | c :: rest =>
    if c = 'e' || c = 'E' then
      let (negative, rest) := Numeral.takeSign rest
      let (digits, rest) := Numeral.takeDigits rest
      if digits.isEmpty then .error .malformed
      else
        let power : Int := Numeral.ofDigits digits
        .ok (some (if negative then -power else power), rest)
    else .ok (none, c :: rest)

/-- A number without its sign: no zero in front of another digit, and digits after a point. -/
def readNumberText (negative : Bool) (cs : List Char) : Except Fault (NumberText × List Char) := do
  let (whole, rest) := Numeral.takeDigits cs
  if whole.isEmpty || (whole.head? == some '0' && 1 < whole.length) then throw .malformed
  match rest with
  | '.' :: rest =>
    let (fraction, rest) := Numeral.takeDigits rest
    if fraction.isEmpty then throw .malformed
    let (power, rest) ← readPower rest
    return (⟨negative, whole, fraction, power⟩, rest)
  | _ =>
    let (power, rest) ← readPower rest
    return (⟨negative, whole, [], power⟩, rest)

/-- The significand holds as many digits as fit 64 bits. -/
def significandLimit : Nat := 0x10000000000000000

/-- The significand after the digits of the whole part, and how many of them did not fit. -/
def absorbWhole (significand : Nat) : List Char → Nat × Nat
  | [] => (significand, 0)
  | c :: rest =>
    let next := 10 * significand + Numeral.ofDigits [c]
    if next < significandLimit then absorbWhole next rest else (significand, rest.length + 1)

/-- The significand after the digits of the fraction, and how many of them fitted. -/
def absorbFraction (significand : Nat) : List Char → Nat × Nat
  | [] => (significand, 0)
  | c :: rest =>
    let next := 10 * significand + Numeral.ofDigits [c]
    if next < significandLimit then
      let (result, taken) := absorbFraction next rest
      (result, taken + 1)
    else (significand, 0)

/-- Scales `x` by the double nearest to a power of ten; a power below every double goes in steps. -/
def scaleReal (x : Binary64) (power : Int) : Option Binary64 :=
  if power.natAbs ≤ 308 then
    (Binary64.ofDecimal? false 1 power.natAbs).bind fun ten =>
      if 0 ≤ power then x.mul? ten else x.div? ten
  else if x.isZero then some x
  else if 0 ≤ power then none
  else
    (Binary64.ofDecimal? false 1 308).bind fun ten =>
      (x.div? ten).bind fun y => scaleReal y (power + 308)
termination_by power.natAbs
decreasing_by omega

def realOf (negative : Bool) (significand : Nat) (power : Int) : Option Binary64 :=
  (Binary64.ofRatio? false significand 1).bind fun x =>
    (scaleReal x power).map fun y => if negative then y.negate else y

/-- The value of a number: whole if it is written so and fits, else the significand rounded, scaled
and rounded again. A number too large for a double has none. -/
def NumberText.value? (text : NumberText) : Option Number :=
  let (significand, dropped) := absorbWhole 0 text.whole
  if text.fraction.isEmpty && text.power.isNone && dropped == 0
      && (!text.negative || (0 < significand && significand ≤ 0x8000000000000000)) then
    some (.whole (if text.negative then -significand else significand))
  else
    let (significand, taken) := absorbFraction significand text.fraction
    (realOf text.negative significand (text.power.getD 0 + dropped - taken)).map .real

def readNumber (negative : Bool) (cs : List Char) : Except Fault (Number × List Char) := do
  let (text, rest) ← readNumberText negative cs
  match text.value? with
  | some value => return (value, rest)
  | none => throw .malformed

/-! ### Strings -/

/-- The number written by four hexadecimal digits. -/
def hexQuad? (a b c d : Char) : Option Nat := do
  return ((← Text.hexValue? a) * 16 + (← Text.hexValue? b)) * 256 + (← Text.hexValue? c) * 16
    + (← Text.hexValue? d)

def isHighSurrogate (n : Nat) : Bool := 0xd800 ≤ n && n < 0xdc00

def isLowSurrogate (n : Nat) : Bool := 0xdc00 ≤ n && n < 0xe000

/-- The character that a surrogate pair stands for. -/
def ofSurrogates (high low : Nat) : Char :=
  Char.ofNat (0x10000 + (high - 0xd800) * 0x400 + (low - 0xdc00))

def simpleEscape? (c : Char) : Option Char :=
  if c = '"' || c = '\\' || c = '/' then some c
  else if c = 'b' then some '\x08'
  else if c = 'f' then some '\x0c'
  else if c = 'n' then some '\n'
  else if c = 'r' then some '\r'
  else if c = 't' then some '\t'
  else none

/-- The characters up to the closing quote, and the text after it. -/
def readChars : List Char → Option (List Char × List Char)
  | [] => none
  | '"' :: rest => some ([], rest)
  | '\\' :: 'u' :: a :: b :: c :: d :: rest =>
    match hexQuad? a b c d with
    | none => none
    | some n =>
      if isHighSurrogate n then
        match rest with
        | '\\' :: 'u' :: e :: f :: g :: h :: rest =>
          match hexQuad? e f g h with
          | none => none
          | some low =>
            if isLowSurrogate low then
              (readChars rest).map fun (cs, rest) => (ofSurrogates n low :: cs, rest)
            else none
        | _ => none
      else if isLowSurrogate n then none
      else (readChars rest).map fun (cs, rest) => (Char.ofNat n :: cs, rest)
  | '\\' :: c :: rest =>
    match simpleEscape? c with
    | none => none
    | some plain => (readChars rest).map fun (cs, rest) => (plain :: cs, rest)
  | c :: rest =>
    if c.toNat < 0x20 || c = '\\' then none
    else (readChars rest).map fun (cs, rest) => (c :: cs, rest)

/-- A string whose opening quote has been read. -/
def readString (cs : List Char) : Except Fault (String × List Char) :=
  match readChars cs with
  | some (chars, rest) => .ok (String.ofList chars, rest)
  | none => .error .malformed

/-! ### Values -/

def readColon (cs : List Char) : Except Fault (List Char) :=
  match skipBlanks cs with
  | ':' :: rest => .ok rest
  | _ => .error .malformed

theorem readColon_cons (rest : List Char) : readColon (':' :: rest) = .ok rest := by
  rw [readColon, skipBlanks_cons (by decide)]
  rfl

mutual

/-- Reads a value with at most `depth` arrays and objects inside each other. -/
def readValue (fuel depth : Nat) (cs : List Char) : Except Fault (Json × List Char) :=
  match fuel with
  | 0 => .error .malformed
  | fuel + 1 =>
    match skipBlanks cs with
    | 'n' :: rest => do return (.null, ← readWord ['u', 'l', 'l'] rest)
    | 't' :: rest => do return (.bool true, ← readWord ['r', 'u', 'e'] rest)
    | 'f' :: rest => do return (.bool false, ← readWord ['a', 'l', 's', 'e'] rest)
    | '"' :: rest => do
      let (s, rest) ← readString rest
      return (.string s, rest)
    | '[' :: rest =>
      match depth with
      | 0 => .error .malformed
      | depth + 1 =>
        match skipBlanks rest with
        | ']' :: rest => .ok (.array [], rest)
        | rest => do
          let (items, rest) ← readItems fuel depth rest
          return (.array items, rest)
    | '\x7b' :: rest =>
      match depth with
      | 0 => .error .malformed
      | depth + 1 =>
        match skipBlanks rest with
        | '\x7d' :: rest => .ok (.object [], rest)
        | rest => do
          let (members, rest) ← readMembers fuel depth rest
          return (.object (Members.ofList members), rest)
    | '-' :: rest => do
      let (n, rest) ← readNumber true rest
      return (.number n, rest)
    | rest => do
      let (n, rest) ← readNumber false rest
      return (.number n, rest)

/-- The items of an array, one at least, up to its end. -/
def readItems (fuel depth : Nat) (cs : List Char) : Except Fault (List Json × List Char) :=
  match fuel with
  | 0 => .error .malformed
  | fuel + 1 => do
    let (item, rest) ← readValue fuel depth cs
    match skipBlanks rest with
    | ',' :: rest =>
      let (items, rest) ← readItems fuel depth rest
      return (item :: items, rest)
    | ']' :: rest => return ([item], rest)
    | _ => throw .malformed

/-- The members of an object as written, one at least, up to its end. -/
def readMembers (fuel depth : Nat) (cs : List Char) : Except Fault (List (String × Json) × List Char) :=
  match fuel with
  | 0 => .error .malformed
  | fuel + 1 =>
    match skipBlanks cs with
    | '"' :: rest => do
      let (name, rest) ← readString rest
      let (value, rest) ← readValue fuel depth (← readColon rest)
      match skipBlanks rest with
      | ',' :: rest =>
        let (members, rest) ← readMembers fuel depth rest
        return ((name, value) :: members, rest)
      | '\x7d' :: rest => return ([(name, value)], rest)
      | _ => throw .malformed
    | _ => .error .malformed

end

/-- A digit opens a number and nothing else. -/
theorem readValue_digit (fuel depth : Nat) {c : Char} (digit : c.isDigit = true) (cs : List Char) :
    readValue (fuel + 1) depth (c :: cs) =
      (readNumber false (c :: cs)).map fun read => (.number read.1, read.2) := by
  have visible : c ≠ ' ' ∧ c ≠ '\n' ∧ c ≠ '\t' ∧ c ≠ '\r' := by
    refine ⟨?_, ?_, ?_, ?_⟩ <;> (rintro rfl; contradiction)
  rw [readValue, skipBlanks_cons visible]
  split
  case h_8 =>
    cases readNumber false (c :: cs) <;> rfl
  all_goals
    rename_i same
    cases same
    contradiction

/-- A bound on the calls that reading `cs` takes. -/
def readFuel (cs : List Char) : Nat := 2 * cs.length + 2

/-- Arrays and objects may lie this deep inside each other. -/
def nestingLimit : Nat := 127

/-- Nothing but blanks may follow. -/
def readEnd {α : Type} (result : Except Fault (α × List Char)) : Except Fault α := do
  let (value, rest) ← result
  if (skipBlanks rest).isEmpty then return value else throw .malformed

/-- The value of a JSON text whose nesting is at most `depth`. -/
def parseWithin (depth : Nat) (text : String) : Except Fault Json :=
  let cs := text.toList
  readEnd (readValue (readFuel cs) depth cs)

def parse (text : String) : Except Fault Json := parseWithin nestingLimit text

end FeedMonitor.Json
