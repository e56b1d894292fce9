/-!
Punycode: texts beyond ASCII, written in letters, digits and hyphens.

The ASCII characters stand first, before the last hyphen. After it stand numbers that say which
character comes next, in increasing order of the characters, and where it is put in. A number is
written with digits of base 36, the least first; a digit below the threshold of its place is the last.
Thresholds follow a bias that adapts to the numbers so far.
-/

namespace FeedMonitor.Web.Punycode

def digitValue? (c : Char) : Option Nat :=
  if 'a' ≤ c && c ≤ 'z' then some (c.toNat - 'a'.toNat)
  else if c.isDigit then some (c.toNat - '0'.toNat + 26)
  else none

/-- The threshold of the place with weight number `place`, counted in steps of 36 from 36 on. -/
def threshold (place bias : Nat) : Nat := min 26 (max 1 (place - bias))

theorem threshold_bounds (place bias : Nat) :
    1 ≤ threshold place bias ∧ threshold place bias ≤ 26 := by
  simp only [threshold]
  omega

/-- Divides a number by 35 until it is small, with a step of 36 for each time. -/
def settleBias (bias delta : Nat) : Nat :=
  if 455 < delta then settleBias (bias + 36) (delta / 35) else bias + 36 * delta / (delta + 38)
termination_by delta
decreasing_by omega

/-- The bias after a number, the first one or a later one, when there are `count` characters. -/
def adapt (delta count : Nat) (isFirst : Bool) : Nat :=
  let delta := if isFirst then delta / 700 else delta / 2
  settleBias 0 (delta + delta / count)

/-! ### Reading -/

/-- What is known in the middle of a text. -/
structure State where
  /-- The characters so far. -/
  codes : List Nat
  /-- The character that comes next is this one or one after it. -/
  code : Nat
  /-- Where the next character would be put in if the number were zero. -/
  position : Nat
  bias : Nat
  /-- The number so far, and the weight and place of its next digit. -/
  number : Nat
  weight : Nat
  place : Nat

def State.ofBasic (codes : List Nat) : State := ⟨codes, 128, 0, 72, 0, 1, 36⟩

/-- Puts in the character that a whole number tells. -/
def State.put (state : State) (number : Nat) : State :=
  let count := state.codes.length + 1
  let place := state.position + number
  let code := state.code + place / count
  let position := place % count
  { codes := state.codes.take position ++ code :: state.codes.drop position
    code
    position := position + 1
    bias := adapt number count (state.position == 0 && state.code == 128)
    number := 0
    weight := 1
    place := 36 }

def State.digit (state : State) (digit : Nat) : State :=
  let number := state.number + digit * state.weight
  let limit := threshold state.place state.bias
  if digit < limit then state.put number
  else
    { state with number, weight := state.weight * (36 - limit), place := state.place + 36 }

def decodeDigits (state : State) : List Char → Option (List Nat)
  | [] => if state.place = 36 then some state.codes else none
  | c :: rest =>
    match digitValue? c with
    | some digit => decodeDigits (state.digit digit) rest
    | none => none

def toChar? (code : Nat) : Option Char :=
  if h : code.isValidChar then some (Char.ofNatAux code h) else none

/-- The text that some small letters, digits and hyphens stand for. -/
def decode? (cs : List Char) : Option (List Char) :=
  let after := (cs.reverse.takeWhile (· != '-')).reverse
  let before := cs.take (cs.length - after.length - 1)
  let codes :=
    if before.isEmpty then decodeDigits (.ofBasic []) cs
    else decodeDigits (.ofBasic (before.map Char.toNat)) after
  codes.bind fun codes => codes.mapM toChar?

/-! ### Writing -/

def digitChar (digit : Nat) : Char :=
  if digit < 26 then Char.ofNat ('a'.toNat + digit) else Char.ofNat ('0'.toNat + digit - 26)

/-- The digits of a number from a place on. -/
def writeNumber (bias place number : Nat) : List Char :=
  let limit := threshold place bias
  if number < limit then [digitChar number]
  else
    digitChar (limit + (number - limit) % (36 - limit)) ::
      writeNumber bias (place + 36) ((number - limit) / (36 - limit))
termination_by number
decreasing_by
  have least := (threshold_bounds place bias).1
  have below := Nat.div_le_self (number - threshold place bias) (36 - threshold place bias)
  omega

/-- How far a text is written. -/
structure Written where
  text : List Char
  /-- How many of its characters are written. -/
  count : Nat
  bias : Nat
  /-- The number of the character that comes next, as far as it is known. -/
  number : Nat
  /-- Whether only characters of ASCII are written. -/
  isFirst : Bool

/-- Goes on past one character of the text while `code` is the one that is put in. -/
def Written.pass (code : Nat) (written : Written) (other : Nat) : Written :=
  if other < code then { written with number := written.number + 1 }
  else if other = code then
    { text := written.text ++ writeNumber written.bias 36 written.number
      count := written.count + 1
      bias := adapt written.number (written.count + 1) written.isFirst
      number := 0
      isFirst := false }
  else written

/-- Writes where the next characters are, in their order; those before `code` are written. -/
def writeCodes (codes : List Nat) (written : Written) (code : Nat) : List Nat → Written
  | [] => written
  | next :: rest =>
    let number := written.number + (next - code) * (written.count + 1)
    let passed := codes.foldl (Written.pass next) { written with number }
    writeCodes codes { passed with number := passed.number + 1 } (next + 1) rest

/-- A text in small letters, digits and hyphens, if that is what its characters of ASCII are. -/
def encode (cs : List Char) : List Char :=
  let codes := cs.map Char.toNat
  let basic := cs.filter fun c => c.toNat < 128
  let others := (codes.filter fun code => 128 ≤ code).eraseDups.mergeSort
  let start := if basic.isEmpty then [] else basic ++ ['-']
  (writeCodes codes ⟨start, basic.length, 72, 0, true⟩ 128 others).text

end FeedMonitor.Web.Punycode
