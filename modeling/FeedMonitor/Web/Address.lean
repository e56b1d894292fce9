import FeedMonitor.Text.Hex
import FeedMonitor.Text.Split

/-!
Numeric host addresses.
-/

namespace FeedMonitor.Web

/-! ### Four numbers -/

/-- A number with a base: sixteen after `0x`, eight after another zero, else ten. Too large a number
is there but has no value. -/
def addressNumber? (cs : List Char) : Option (Option Nat) :=
  let (base, digits) : Nat × List Char := match cs with
    | '0' :: 'x' :: rest => (16, rest)
    | '0' :: 'X' :: rest => (16, rest)
    | '0' :: c :: rest => (8, c :: rest)
    | cs => (10, cs)
  if cs.isEmpty then none
  else
    match digits.mapM Text.hexValue? with
    | none => none
    | some values =>
      if values.any (base ≤ ·) then none
      else
        let value := values.foldl (fun value digit => base * value + digit) 0
        some (if value < 0x100000000 then some value else none)

/-- Whether the last part of a domain, a dot at the end apart, is a number. -/
def endsInNumber (domain : List Char) : Bool :=
  let isNumber (part : List Char) : Bool :=
    (!part.isEmpty && part.all Char.isDigit) || (addressNumber? part).isSome
  match (Text.splitOn '.' domain).reverse with
  | [] :: part :: _ => isNumber part
  | [] :: [] => false
  | part :: _ => isNumber part
  | [] => false

/-- The address of up to four numbers: all but the last are bytes, and the last fills the rest. -/
def ipv4? (domain : List Char) : Option Nat := do
  let parts := match (Text.splitOn '.' domain).reverse with
    | [] :: parts => parts
    | parts => parts
  if 4 < parts.length then none
  match ← parts.mapM fun part => (addressNumber? part).join with
  | [] => none
  | last :: others =>
    if others.any (255 < ·) || Nat.pow 256 (4 - others.length) ≤ last then none
    else
      return others.reverse.zipIdx.foldl (fun sum (n, index) => sum + n * Nat.pow 256 (3 - index)) last

/-! ### Eight groups -/

/-- One to four hexadecimal digits. -/
def group? (cs : List Char) : Option Nat := do
  if cs.isEmpty || 4 < cs.length then none
  let values ← cs.mapM Text.hexValue?
  return values.foldl (fun value digit => 16 * value + digit) 0

/-- A decimal byte without a zero in front. -/
def byte? (cs : List Char) : Option Nat :=
  if cs.isEmpty || !cs.all Char.isDigit || (1 < cs.length && cs.head? == some '0')
      || 3 < cs.length then none
  else
    let value := Nat.ofDigitChars 10 cs 0
    if value ≤ 255 then some value else none

/-- Groups between colons; the last place may hold four bytes, which are two groups. -/
def groups? : List (List Char) → Option (List Nat)
  | [] => some []
  | [part] =>
    if part.contains '.' then
      match (Text.splitOn '.' part).mapM byte? with
      | some [a, b, c, d] => some [a * 256 + b, c * 256 + d]
      | _ => none
    else (group? part).map fun value => [value]
  | part :: next :: rest => do
    return (← group? part) :: (← groups? (next :: rest))

/-- The text before and after the first two colons in a row. -/
def breakDoubleColon : List Char → Option (List Char × List Char)
  | ':' :: ':' :: rest => some ([], rest)
  | c :: rest => (breakDoubleColon rest).map fun (before, after) => (c :: before, after)
  | [] => none

/-- Two colons in a row stand for the zero groups that are missing, one at least. -/
def ipv6? (cs : List Char) : Option (List Nat) := do
  let groupsOf (part : List Char) : Option (List Nat) :=
    if part.isEmpty then some [] else groups? (Text.splitOn ':' part)
  match breakDoubleColon cs with
  | some (before, after) =>
    if before.contains '.' then none
    let front ← groupsOf before
    let back ← groupsOf after
    let count := front.length + back.length
    if count ≤ 7 then return front ++ List.replicate (8 - count) 0 ++ back else none
  | none =>
    let groups ← groups? (Text.splitOn ':' cs)
    if groups.length = 8 then return groups else none

end FeedMonitor.Web
