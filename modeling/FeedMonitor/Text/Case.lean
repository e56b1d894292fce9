import FeedMonitor.Text.Case.Lower
import FeedMonitor.Text.Case.Upper

/-!
Upper and lower case of whole texts, by the full Unicode mapping: a letter may become several, and
a capital sigma that ends a word becomes the final small sigma.
-/

namespace FeedMonitor.Text

def upperForms (c : Char) : List Char :=
  if c.toNat < 0x80 then [c.toUpper] else mapChar upperRuns upperExpansions c

def upper (s : String) : String :=
  String.ofList (s.toList.flatMap upperForms)

def isCased (c : Char) : Bool := inRanges casedRanges c.toNat

def isCaseIgnorable (c : Char) : Bool := inRanges caseIgnorableRanges c.toNat

/-- Whether the first character that is not ignorable exists and is cased. -/
def startsCased (cs : List Char) : Bool :=
  match cs.dropWhile isCaseIgnorable with
  | c :: _ => isCased c
  | [] => false

/-- The lower-case form of `c` between the text before it, read backwards, and the text after it. -/
def lowerForms (before : List Char) (c : Char) (after : List Char) : List Char :=
  if c.toNat < 0x80 then [c.toLower]
  else if c = 'Σ' then
    if startsCased before && !startsCased after then ['ς'] else ['σ']
  else mapChar lowerRuns lowerExpansions c

def lowerFrom (before : List Char) : List Char → List Char
  | [] => []
  | c :: rest => lowerForms before c rest ++ lowerFrom (c :: before) rest

def lower (s : String) : String :=
  String.ofList (lowerFrom [] s.toList)

/-- Lower case of the letters `A` to `Z` alone. -/
def asciiLower (s : String) : String :=
  String.ofList (s.toList.map Char.toLower)

end FeedMonitor.Text
