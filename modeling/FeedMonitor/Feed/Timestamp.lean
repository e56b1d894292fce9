import FeedMonitor.Json.Value
import FeedMonitor.Time.Instant.Reading

/-!
Instants as feeds give them.

A number, or a text that is one, counts from 1970-01-01, and its size tells the unit: above 10^15 it
is microseconds, above 10^12 milliseconds, and seconds otherwise. Any other text is a date.
-/

namespace FeedMonitor.Feed

def microsThreshold : Nat := 1000000000000000

def millisThreshold : Nat := 1000000000000

/-- The double nearest to `factor * x`. -/
def microsOf? (x : Binary64) : Option Binary64 :=
  let factor := if x.exceeds microsThreshold then 1 else if x.exceeds millisThreshold then 1000
    else 1000000
  Binary64.ofRatio? x.negative (factor * x.numerator) x.denominator

/-- The instant a positive number of its unit after 1970-01-01, to the microsecond. -/
def ofEpoch? (x : Binary64) : Option Instant :=
  if x.isPositive then
    (microsOf? x).bind fun micros =>
      if micros.exceeds 0x7fffffffffffffff then none else Instant.ofMicros? micros.nearestWhole
  else none

def instantOfText? (text : String) : Option Instant :=
  (Text.nonBlank? text).bind fun text =>
    Instant.ofStrict? text <|> Instant.ofLocal? text <|> (Numeral.real? text).bind ofEpoch?

def instantOf? : Json → Option Instant
  | .number n => n.toReal?.bind ofEpoch?
  | .string text => instantOfText? text
  | _ => none

end FeedMonitor.Feed
