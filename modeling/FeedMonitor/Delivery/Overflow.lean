import FeedMonitor.Text.Blank
import FeedMonitor.Text.Case
import FeedMonitor.Text.Choice

/-!
What is given up when a full queue is offered another record.
-/

namespace FeedMonitor.Delivery

inductive Overflow
  /-- The record that arrives. -/
  | dropNewest
  /-- The record at the head. -/
  | dropOldest
deriving DecidableEq

namespace Overflow

instance : Inhabited Overflow := ⟨dropNewest⟩

def name : Overflow → String
  | dropNewest => "drop-newest"
  | dropOldest => "drop-oldest"

def words : List (String × Overflow) :=
  [("drop-newest", dropNewest), ("newest", dropNewest), ("drop-oldest", dropOldest),
    ("oldest", dropOldest)]

/-- Underscores read as hyphens. -/
def hyphenate (s : String) : String :=
  String.ofList (s.toList.map fun c => if c = '_' then '-' else c)

def parse (text : String) : Except Text.UnknownWord Overflow :=
  Text.choose "overflow policy" words (hyphenate (Text.asciiLower (Text.trim text)))

end Overflow

end FeedMonitor.Delivery
