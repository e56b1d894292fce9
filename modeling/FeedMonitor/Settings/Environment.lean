import FeedMonitor.Number.Numeral
import FeedMonitor.Text.Blank
import FeedMonitor.Text.Case
import FeedMonitor.Time.Span

/-!
Named texts from which settings are read.

The last value given under a name counts. A value that cannot be read is as good as none.
-/

namespace FeedMonitor

abbrev Environment := List (String × String)

namespace Environment

def value? (environment : Environment) (name : String) : Option String :=
  environment.reverse.lookup name

end Environment

namespace Settings

def numberOf? (most : Nat) (value : Option String) : Option Nat :=
  value.bind fun value => Numeral.unsigned? most (Text.trim value)

/-- Numbers that count things have sixty-four bits. -/
def mostCount : Nat := 0xffffffffffffffff

def millisOf? (value : Option String) : Option Span :=
  (numberOf? mostCount value).map Span.ofMillis

def textOf? (value : Option String) : Option String := value.bind Text.nonBlank?

def yesWords : List String := ["1", "true", "t", "yes", "y"]

def noWords : List String := ["0", "false", "f", "no", "n"]

/-- Yes or no, in any ASCII case. -/
def flagOf? (value : Option String) : Option Bool :=
  value.bind fun value =>
    let word := Text.asciiLower (Text.trim value)
    if yesWords.contains word then some true
    else if noWords.contains word then some false
    else none

end Settings

end FeedMonitor
