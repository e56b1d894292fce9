import FeedMonitor.Number.Numeral
import FeedMonitor.Text.Blank
import FeedMonitor.Time.Instant

/-!
Reading instants from text.

Three forms are read. The strict one is RFC 3339: fields of fixed width, and an offset. The lenient
one takes fields of any width with blanks around them, signed years, and the offset without its
colon or as the letters UTC. The local one has no offset and means universal time.
-/

namespace FeedMonitor.Instant

/-- A date and a time of day as written, and the seconds by which they run ahead of universal time. -/
structure Stamp where
  date : Date
  hour : Nat
  minute : Nat
  second : Nat
  nanos : Nat
  ahead : Int

/-- Second 60 is the leap second after second 59. -/
def Stamp.toInstant? (stamp : Stamp) : Option Instant :=
  if stamp.date.isValid && stamp.hour ≤ 23 && stamp.minute ≤ 59 && stamp.second ≤ 60
      && stamp.ahead.natAbs < 86400 then
    let leap := stamp.second == 60
    let clock : Int := stamp.hour * 3600 + stamp.minute * 60 + (if leap then 59 else stamp.second)
    let instant : Instant :=
      ⟨stamp.date.toDays * 86400 + clock - stamp.ahead,
        if leap then stamp.nanos + 1000000000 else stamp.nanos⟩
    if instant.inRange then some instant else none
  else none

/-- A number of at least `least` and at most `most` digits. -/
def takeNumber (least most : Nat) (cs : List Char) : Option (Nat × List Char) :=
  let digits := (cs.take most).takeWhile Char.isDigit
  if digits.length < least then none
  else some (Numeral.ofDigits digits, cs.drop digits.length)

def takeChar (c : Char) : List Char → Option (List Char)
  | d :: rest => if d = c then some rest else none
  | [] => none

/-- A fraction of a second, if one follows: nine digits count and further ones are skipped. -/
def takeFraction : List Char → Option (Nat × List Char)
  | '.' :: rest =>
    let (digits, after) := Numeral.takeDigits rest
    if digits.isEmpty then none
    else
      let counted := digits.take 9
      some (Numeral.ofDigits counted * Nat.pow 10 (9 - counted.length), after)
  | cs => some (0, cs)

/-- A field that may have blanks before it. -/
def takeField (most : Nat) (cs : List Char) : Option (Nat × List Char) :=
  takeNumber 1 most (Text.trimStart cs)

/-- A year: four digits at most, or any number of them after a sign. -/
def takeYear (cs : List Char) : Option (Int × List Char) :=
  match Text.trimStart cs with
  | '-' :: rest => (takeNumber 1 rest.length rest).map fun (year, rest) => (-(year : Int), rest)
  | '+' :: rest => (takeNumber 1 rest.length rest).map fun (year, rest) => ((year : Int), rest)
  | rest => (takeNumber 1 4 rest).map fun (year, rest) => ((year : Int), rest)

def takeSignOfOffset : List Char → Option (Int × List Char)
  | '+' :: rest => some (1, rest)
  | '-' :: rest => some (-1, rest)
  | '−' :: rest => some (-1, rest)
  | _ => none

/-- An offset: `Z`, or a sign, two digits of hours, what `between` takes, and two of minutes. -/
def takeOffset (between : List Char → Option (List Char)) (cs : List Char) :
    Option (Int × List Char) :=
  match cs with
  | 'Z' :: rest => some (0, rest)
  | 'z' :: rest => some (0, rest)
  | cs => do
    let (sign, rest) ← takeSignOfOffset cs
    let (hours, rest) ← takeNumber 2 2 rest
    let (minutes, rest) ← takeNumber 2 2 (← between rest)
    if minutes ≤ 59 then return (sign * (hours * 3600 + minutes * 60), rest) else none

/-- What stands between a date and a time of day. -/
def takeSeparator : List Char → Option (List Char)
  | c :: rest => if c = 'T' || c = 't' || c = ' ' then some rest else none
  | [] => none

def ended {α : Type} : Option (α × List Char) → Option α
  | some (value, []) => some value
  | _ => none

def takeStrict (cs : List Char) : Option (Stamp × List Char) := do
  let (year, cs) ← takeNumber 4 4 cs
  let (month, cs) ← takeNumber 2 2 (← takeChar '-' cs)
  let (day, cs) ← takeNumber 2 2 (← takeChar '-' cs)
  let (hour, cs) ← takeNumber 2 2 (← takeSeparator cs)
  let (minute, cs) ← takeNumber 2 2 (← takeChar ':' cs)
  let (second, cs) ← takeNumber 2 2 (← takeChar ':' cs)
  let (nanos, cs) ← takeFraction cs
  let (ahead, cs) ← takeOffset (takeChar ':') cs
  return (⟨⟨year, month, day⟩, hour, minute, second, nanos, ahead⟩, cs)

/-- Reads the strict form. -/
def ofStrict? (text : String) : Option Instant :=
  (ended (takeStrict text.toList)).bind Stamp.toInstant?

/-- A date whose fields have `blanks` taken away in front of the marks between them. -/
def takeDate (blanks : List Char → List Char) (cs : List Char) : Option (Date × List Char) := do
  let (year, cs) ← takeYear cs
  let (month, cs) ← takeField 2 (← takeChar '-' (blanks cs))
  let (day, cs) ← takeField 2 (← takeChar '-' (blanks cs))
  return (⟨year, month, day⟩, cs)

/-- A time of day, likewise: hour, minute, second and nanoseconds. -/
def takeClock (blanks : List Char → List Char) (cs : List Char) :
    Option ((Nat × Nat × Nat × Nat) × List Char) := do
  let (hour, cs) ← takeField 2 cs
  let (minute, cs) ← takeField 2 (← takeChar ':' (blanks cs))
  let (second, cs) ← takeField 2 (← takeChar ':' (blanks cs))
  let (nanos, cs) ← takeFraction cs
  return ((hour, minute, second, nanos), cs)

/-- An offset after blanks: as above with colons and blanks inside at will, or the letters UTC. -/
def takeLenientOffset (cs : List Char) : Option (Int × List Char) :=
  let cs := Text.trimStart cs
  if (cs.take 3).map Char.toLower = ['u', 't', 'c'] then some (0, cs.drop 3)
  else takeOffset (fun rest => some (rest.dropWhile fun c => c == ':' || Text.isBlank c)) cs

def takeLenient (cs : List Char) : Option (Stamp × List Char) := do
  let (date, cs) ← takeDate Text.trimStart cs
  let ((hour, minute, second, nanos), cs) ← takeClock Text.trimStart (← takeSeparator cs)
  let (ahead, cs) ← takeLenientOffset cs
  return (⟨date, hour, minute, second, nanos, ahead⟩, Text.trimStart cs)

/-- Reads the lenient form. -/
def ofLenient? (text : String) : Option Instant :=
  (ended (takeLenient text.toList)).bind Stamp.toInstant?

/-- A date, what `between` takes, and a time of day. -/
def takeLocal (between : List Char → Option (List Char)) (cs : List Char) :
    Option (Stamp × List Char) := do
  let (date, cs) ← takeDate id cs
  let ((hour, minute, second, nanos), cs) ← takeClock id (← between cs)
  return (⟨date, hour, minute, second, nanos, 0⟩, cs)

/-- Reads the local form: a date alone, or with a time of day after a `T` or after blanks. -/
def ofLocal? (text : String) : Option Instant :=
  let cs := text.toList
  ((ended (takeLocal (takeChar 'T') cs)).bind Stamp.toInstant?
    <|> (ended (takeLocal (some ∘ Text.trimStart) cs)).bind Stamp.toInstant?)
    <|> (ended (takeDate id cs)).bind fun date => Stamp.toInstant? ⟨date, 0, 0, 0, 0, 0⟩

end FeedMonitor.Instant
