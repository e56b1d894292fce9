import FeedMonitor.Time.Calendar

/-!
Instants of universal time, to the nanosecond.
-/

namespace FeedMonitor

/-- Seconds from 1970-01-01 and the nanoseconds after them. From a whole second of nanoseconds on,
the instant lies in the leap second that follows. -/
structure Instant where
  seconds : Int
  nanos : Nat
deriving DecidableEq, Inhabited

namespace Instant

def day (instant : Instant) : Int := instant.seconds / 86400

def secondOfDay (instant : Instant) : Nat := (instant.seconds % 86400).toNat

/-- Whether the calendar reaches the instant. -/
def inRange (instant : Instant) : Bool :=
  Date.firstDay ≤ instant.day && instant.day ≤ Date.lastDay

/-- The instant so many microseconds after 1970-01-01. -/
def ofMicros? (micros : Int) : Option Instant :=
  let instant : Instant := ⟨micros / 1000000, (micros % 1000000).toNat * 1000⟩
  if instant.inRange then some instant else none

end Instant

end FeedMonitor
