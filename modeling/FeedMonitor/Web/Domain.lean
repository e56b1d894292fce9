import FeedMonitor.Text.Case
import FeedMonitor.Text.Split
import FeedMonitor.Web.Composition
import FeedMonitor.Web.Domain.Direction
import FeedMonitor.Web.Domain.Excluded
import FeedMonitor.Web.Domain.Latin
import FeedMonitor.Web.Domain.Mark
import FeedMonitor.Web.Domain.Other
import FeedMonitor.Web.Punycode

/-!
Domain names, in ASCII and beyond.

A name is read in lower case, what stands for other characters counts as these, and what forms one
character is put together. Its labels stand between dots. A label that starts with `xn--` is a label
beyond ASCII in another spelling, and has to spell one that could have been written; every label
beyond ASCII is written in this spelling.
-/

namespace FeedMonitor.Web.Domain

/-- The ASCII characters that no domain name holds. -/
def isForbidden (c : Char) : Bool :=
  c.toNat ≤ 0x20 || c.toNat == 0x7f || "#%/:<>?@[\\]^|".toList.contains c

/-- Whether no name holds a character, which is none of ASCII. -/
def isExcluded (c : Char) : Bool := 0x80 ≤ c.toNat && Text.inRanges excludedRanges c.toNat

/-- The code points beyond ASCII that one stands for. -/
def others? (code : Nat) : Option (List Nat) :=
  let row := otherRows.find? fun (first, images) => first ≤ code && code < first + images.length
  match row with
  | some (first, images) => some ((images.drop (code - first)).take 1)
  | none => otherTexts.lookup code

/-- What a character counts as in a name. -/
def forms (c : Char) : List Char :=
  if c.toNat < 0x80 then [c.toLower]
  else if Text.inRanges ignoredRanges c.toNat then []
  else
    match others? c.toNat with
    | some codes => codes.map Char.ofNat
    | none =>
      (Text.mapChar latinRuns latinTexts c).flatMap fun c =>
        if c.toNat < 0x80 then [c] else Text.mapChar Text.lowerRuns Text.lowerExpansions c

/-! ### Labels -/

/-- Combining marks start at code point 300 of base sixteen. -/
def isMark (c : Char) : Bool := 0x300 ≤ c.toNat && Text.inRanges markRanges c.toNat

def joinsForward (c : Char) : Bool := Text.inRanges joiningForward c.toNat

def joinsBack (c : Char) : Bool := Text.inRanges joiningBack c.toNat

def isPassedOver (c : Char) : Bool := Text.inRanges joiningThrough c.toNat

/-- Whether a character may stand between the text before it, read backwards, and the text after it. A
joiner needs a virama before it; a non-joiner may also part letters that would join. -/
def fitsIn (before : List Char) (c : Char) (after : List Char) : Bool :=
  let afterVirama := before.head?.any fun other => Text.inRanges viramaRanges other.toNat
  if c = '\u200d' then afterVirama
  else if c = '\u200c' then
    afterVirama || ((before.dropWhile isPassedOver).head?.any joinsForward
      && (after.dropWhile isPassedOver).head?.any joinsBack)
  else true

def joinersFit (before : List Char) : List Char → Bool
  | [] => true
  | c :: rest => fitsIn before c rest && joinersFit (c :: before) rest

/-- Whether a label is well formed, its direction apart. -/
def isLabel (label : List Char) : Bool :=
  !(label.head?.any isMark) && joinersFit [] label && !label.any isForbidden

/-- Whether a character is written as itself. -/
def isPlain (c : Char) : Bool := forms c == [c] && !isExcluded c

def encodedStart : List Char := "xn--".toList

def isAscii (label : List Char) : Bool := label.all fun c => c.toNat < 0x80

/-- The label that a label spells: itself, or what it has after `xn--`. -/
def spelled? (label : List Char) : Option (List Char) :=
  if encodedStart.isPrefixOf label then
    match Punycode.decode? (label.drop encodedStart.length) with
    | some decoded =>
      if !isAscii label || isAscii decoded || !decoded.all isPlain
        || Composition.compose decoded != decoded || decoded.contains '.'
        || encodedStart.isPrefixOf decoded then none
      else some decoded
    | none => none
  else some label

/-- The spelling of a label in ASCII. -/
def write (label : List Char) : List Char :=
  if isAscii label then label else encodedStart ++ Punycode.encode label

/-! ### Direction -/

/-- The directions of a label whose last one decides how it ends: marks at the end do not count. -/
def ending (directions : List Direction) : Option Direction :=
  (directions.reverse.dropWhile (· == .mark)).head?

/-- Whether a label can stand in a name that is written from right to left in part: it runs in one
direction from its start to its end, and one from right to left holds numbers of one kind only. -/
def runsOneWay (label : List Char) : Bool :=
  let directions := label.map direction
  match directions.head? with
  | none => true
  | some .right =>
    directions.all (fun d => d != .left && d != .other)
      && (ending directions).any (fun d => d == .right || d == .europeanNumber || d == .arabicNumber)
      && !(directions.contains .europeanNumber && directions.contains .arabicNumber)
  | some .left =>
    directions.all (fun d => d != .right && d != .arabicNumber && d != .other)
      && (ending directions).any (fun d => d == .left || d == .europeanNumber)
  | some _ => false

/-- The first script from right to left starts at code point 590 of base sixteen. -/
def isFromRight (label : List Char) : Bool :=
  label.any fun c => 0x590 ≤ c.toNat && (direction c == .right || direction c == .arabicNumber)

/-! ### Names -/

/-- Whether the labels of a name can stand in it. -/
def areLabels (labels : List (List Char)) : Bool :=
  match labels.mapM spelled? with
  | none => false
  | some spelled =>
    spelled.all isLabel && (!spelled.any isFromRight || spelled.all runsOneWay)

/-- The name that a text spells. -/
def parse? (cs : List Char) : Option (List Char) :=
  if cs.any isExcluded then none
  else
    let labels := Text.splitOn '.' (Composition.compose (cs.flatMap forms))
    if areLabels labels then some (Text.joinWith '.' (labels.map write)) else none

/-- The name that some bytes spell. -/
def ofBytes? (bytes : List UInt8) : Option (List Char) :=
  (String.fromUTF8? ⟨bytes.toArray⟩).bind fun text => parse? text.toList

end FeedMonitor.Web.Domain
