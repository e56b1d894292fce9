/-!
Tables over code points: runs that are mapped by a fixed distance, and ranges.
-/

namespace FeedMonitor.Text

/-- The code points `first`, `first + stride`, …, `last`, each mapped `offset` further. -/
structure CodeRun where
  first : Nat
  last : Nat
  stride : Nat
  offset : Int

def CodeRun.covers (run : CodeRun) (code : Nat) : Bool :=
  run.first ≤ code && code ≤ run.last && (code - run.first) % run.stride == 0

/-- The image of `code` under the run that covers it; a code point outside every run stays. -/
def mapCode (runs : List CodeRun) (code : Nat) : Nat :=
  match runs.find? (·.covers code) with
  | some run => (code + run.offset).toNat
  | none => code

/-- The image of a character: some code points for one that `expansions` lists, else one. -/
def mapChar (runs : List CodeRun) (expansions : List (Nat × List Nat)) (c : Char) : List Char :=
  match expansions.lookup c.toNat with
  | some codes => codes.map Char.ofNat
  | none => [Char.ofNat (mapCode runs c.toNat)]

/-- Whether `code` lies in one of the closed ranges. -/
def inRanges (ranges : List (Nat × Nat)) (code : Nat) : Bool :=
  ranges.any fun (first, last) => first ≤ code && code ≤ last

end FeedMonitor.Text
