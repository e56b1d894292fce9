import FeedMonitor.Text.Blank
import FeedMonitor.Text.Case
import FeedMonitor.Text.Choice
import FeedMonitor.Time.Span

/-!
How long to wait before the next attempt to connect.

An exponential delay is the base doubled with every failure, at most thirty-one times, and never more
than the greatest delay. With jitter it is only the ceiling of a random delay.

Main statement: no delay is longer than its ceiling.
-/

namespace FeedMonitor.Feed

inductive BackoffPolicy
  /-- The same delay after every failure. -/
  | fixed (delay : Span)
  /-- A delay that doubles with every failure up to `most`; with `jitter` a random part of it. -/
  | exponential (base most : Span) (jitter : Bool)
deriving DecidableEq

inductive BackoffKind
  | fixed
  | exponential
deriving DecidableEq

def BackoffKind.name : BackoffKind → String
  | fixed => "fixed"
  | exponential => "exponential"

def BackoffKind.parse (text : String) : Except Text.UnknownWord BackoffKind :=
  Text.choose "backoff policy"
    [("fixed", .fixed), ("exponential", .exponential), ("exp", .exponential)]
    (Text.asciiLower (Text.trim text))

namespace BackoffPolicy

def defaultDelay : Span := .ofSeconds 1

def defaultMost : Span := .ofSeconds 30

instance : Inhabited BackoffPolicy := ⟨fixed defaultDelay⟩

def defaultExponential : BackoffPolicy := exponential defaultDelay defaultMost true

/-- Factors have thirty-two bits. -/
def mostFactor : Nat := 0xffffffff

/-- Two to the power of `exponent`, and the greatest factor if that would be greater. -/
def factor (exponent : Nat) : Nat := min (Nat.pow 2 exponent) mostFactor

/-- The delay after `failures` failures, before any jitter. -/
def ceiling (policy : BackoffPolicy) (failures : Nat) : Span :=
  match policy with
  | fixed delay => delay
  | exponential base most _ =>
    ⟨min (base.times (factor (min failures 31))).nanos most.nanos⟩

def hasJitter : BackoffPolicy → Bool
  | exponential _ _ jitter => jitter
  | fixed _ => false

end BackoffPolicy

/-- A policy and the failures since the last success. -/
structure Backoff where
  policy : BackoffPolicy
  failures : Nat
deriving DecidableEq

namespace Backoff

def ofPolicy (policy : BackoffPolicy) : Backoff := ⟨policy, 0⟩

/-- Failures are counted in thirty-two bits. -/
def mostFailures : Nat := 0xffffffff

def ceiling (backoff : Backoff) : Span := backoff.policy.ceiling backoff.failures

/-- Jitter is drawn in milliseconds of sixty-four bits. -/
def mostJitter : Nat := 0xffffffffffffffff

/-- The next delay, and the count one failure higher. With jitter, `draw` picks one of the whole
milliseconds from zero up to the ceiling. -/
def next (backoff : Backoff) (draw : Nat) : Span × Backoff :=
  let ceiling := backoff.ceiling
  (if backoff.policy.hasJitter && !ceiling.isZero then
      .ofMillis (draw % (min ceiling.millis mostJitter + 1))
    else ceiling,
    { backoff with failures := min (backoff.failures + 1) mostFailures })

def reset (backoff : Backoff) : Backoff := { backoff with failures := 0 }

theorem next_le_ceiling (backoff : Backoff) (draw : Nat) :
    (backoff.next draw).1.nanos ≤ backoff.ceiling.nanos := by
  simp only [next]
  split
  · simp only [Span.ofMillis, Span.millis]
    have h := Nat.mod_lt draw (y := min (backoff.ceiling.nanos / 1000000) mostJitter + 1) (by omega)
    omega
  · exact Nat.le_refl _

end Backoff

end FeedMonitor.Feed
