/-!
Words that choose one of a few values.
-/

namespace FeedMonitor.Text

/-- A word that stands for none of the values of `choice`. -/
structure UnknownWord where
  choice : String
  word : String
deriving DecidableEq

def UnknownWord.message (fault : UnknownWord) : String :=
  "unknown " ++ fault.choice ++ ": " ++ fault.word

def choose {α : Type} (choice : String) (values : List (String × α)) (word : String) :
    Except UnknownWord α :=
  match values.lookup word with
  | some value => .ok value
  | none => .error ⟨choice, word⟩

end FeedMonitor.Text
