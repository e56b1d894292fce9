import FeedMonitor.Web.Composition.Table

/-!
Texts in which characters and their marks are put together where there is one character for both: the
composed form of the Unicode standard, for texts whose characters are composed on their own.

A text is taken apart first. Then the marks of a character are put in the order of their places, and
it takes in one after the other, but for those that another mark of their place stands before.
-/

namespace FeedMonitor.Web.Composition

/-- The place of a mark, and zero for a character that is none. -/
def place (code : Nat) : Nat :=
  if code < 0x300 then 0
  else
    match places.find? fun (first, last, _) => first ≤ code && code ≤ last with
    | some (_, _, place) => place
    | none => 0

/-- The first of the Hangul syllables, which are numbered by their consonants and vowels. -/
def firstSyllable : Nat := 0xac00

def lastSyllable : Nat := 0xd7a3

/-- What a character consists of. -/
def halves? (code : Nat) : Option (Nat × Nat) :=
  if code < 0xc0 then none
  else if firstSyllable ≤ code && code ≤ lastSyllable then
    let number := code - firstSyllable
    if number % 28 = 0 then some (0x1100 + number / 588, 0x1161 + number % 588 / 28)
    else some (code - number % 28, 0x11a7 + number % 28)
  else
    wholes.findSome? fun (first, seconds) =>
      (seconds.find? fun (_, whole) => whole == code).map fun (second, _) => (first, second)

/-- What two characters form. -/
def whole? (first second : Nat) : Option Nat :=
  -- The least characters of the table, which spare most texts a look at it.
  if first < 0x3c || second < 0x300 then none
  else if 0x1100 ≤ first && first ≤ 0x1112 && 0x1161 ≤ second && second ≤ 0x1175 then
    some (firstSyllable + (first - 0x1100) * 588 + (second - 0x1161) * 28)
  else if firstSyllable ≤ first && first ≤ lastSyllable && (first - firstSyllable) % 28 == 0
      && 0x11a8 ≤ second && second ≤ 0x11c2 then
    some (first + (second - 0x11a7))
  else (wholes.lookup first).bind fun seconds => seconds.lookup second

/-- The parts of a character when it is taken apart so many times. -/
def partsWithin : Nat → Nat → List Nat
  | 0, code => [code]
  | times + 1, code =>
    match halves? code with
    | some (first, second) => partsWithin times first ++ [second]
    | none => [code]

/-- The parts of a character, of which there are three at most. -/
def parts (code : Nat) : List Nat := partsWithin 2 code

/-- A text read backwards, with one more character at its end or, if it is a mark, before the marks of
higher places there. -/
def put (reversed : List Nat) (code : Nat) : List Nat :=
  match reversed with
  | [] => [code]
  | other :: rest =>
    if 0 < place code && place code < place other then other :: put rest code
    else code :: other :: rest

/-- Puts a text together after a character and the marks that it could not take in, the last one
first. -/
def joinFrom (base : Nat) (marks : List Nat) : List Nat → List Nat
  | [] => base :: marks.reverse
  | code :: rest =>
    let within := if marks.head?.all (fun mark => place mark < place code) then whole? base code
      else none
    match within with
    | some whole => joinFrom whole marks rest
    | none =>
      if place code = 0 then base :: marks.reverse ++ joinFrom code [] rest
      else joinFrom base (code :: marks) rest

/-- Puts a text together. Marks at its start have nothing to go with. -/
def join : List Nat → List Nat
  | [] => []
  | code :: rest => if place code = 0 then joinFrom code [] rest else code :: join rest

def compose (cs : List Char) : List Char :=
  let codes := cs.flatMap fun c => parts c.toNat
  (join (codes.foldl put []).reverse).map Char.ofNat

end FeedMonitor.Web.Composition
