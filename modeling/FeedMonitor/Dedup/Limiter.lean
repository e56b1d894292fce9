import FeedMonitor.Context
import FeedMonitor.Room
import FeedMonitor.Time.Span

/-!
Folding bursts of repeated emissions.

Emissions that share a severity and an event, or a message where there is no event, share a key. The
first of a key is admitted. Another one within the window after the last is a collision: collisions
are suppressed until the threshold is reached, and the one that reaches it is admitted as a marker
that says how many were suppressed. The last attempt counts, admitted or not. Keys are held by their
texts, in the order of their last attempts, and the one attempted longest ago is forgotten when there
are too many.
-/

namespace FeedMonitor

/-- What two emissions share if the one may stand for the other. -/
structure Limiter.Key where
  severity : Severity
  subject : String
deriving DecidableEq

def Limiter.Key.of (severity : Severity) (message : String) (event : Option String) : Key :=
  ⟨severity, event.getD message⟩

def Limiter.Key.text (key : Key) : String := key.severity.name ++ ":" ++ key.subject

structure Limiter.Entry where
  /-- When the key was last attempted, from the start of the clock. -/
  lastSeen : Span
  /-- Collisions since the key was last admitted. -/
  collisions : Nat
deriving DecidableEq

structure Limiter where
  window : Span
  threshold : Nat
  mostKeys : Nat
  /-- What is held of each key under its text. The key attempted longest ago comes first. -/
  entries : List (String × Limiter.Entry)

namespace Limiter

/-- A threshold of zero acts as one, which suppresses nothing. -/
def ofSettings (window : Span) (threshold mostKeys : Nat) : Limiter :=
  ⟨window, max threshold 1, max mostKeys 1, []⟩

/-- The limiter, if there is room for as many keys as it may track. -/
def reserve? (room : Room) (window : Span) (threshold mostKeys : Nat) : Option Limiter :=
  if room.grants (max mostKeys 1) then some (ofSettings window threshold mostKeys) else none

def reconfigure (limiter : Limiter) (window : Span) (threshold : Nat) : Limiter :=
  { limiter with window, threshold := max threshold 1 }

def tracked (limiter : Limiter) : Nat := limiter.entries.length

/-- Collisions are counted in thirty-two bits. -/
def mostCollisions : Nat := 0xffffffff

def mostMillis : Nat := 0xffffffffffffffff

inductive Verdict
  | suppress
  | pass
  /-- Pass and say how many emissions this one stands for. -/
  | mark (suppressed : Nat)
deriving DecidableEq

/-- The verdict on an attempt at a key that is tracked, and what is held of it afterwards. -/
def judge (window : Span) (threshold : Nat) (entry : Entry) (now : Span) : Verdict × Entry :=
  if now.nanos - entry.lastSeen.nanos < window.nanos then
    let collisions := min (entry.collisions + 1) mostCollisions
    if collisions < threshold then (.suppress, ⟨now, collisions⟩)
    else (.mark (collisions - 1), ⟨now, 0⟩)
  else (.pass, ⟨now, 0⟩)

def without (text : String) (entries : List (String × Entry)) : List (String × Entry) :=
  entries.filter fun (other, _) => other != text

/-- The entries that remain when a new key comes, and the key forgotten for it. -/
def makeRoom (limiter : Limiter) : List (String × Entry) × Option String :=
  if limiter.mostKeys ≤ limiter.tracked then
    (limiter.entries.drop 1, limiter.entries.head?.map Prod.fst)
  else (limiter.entries, none)

/-- Decides on an attempt at the key with a text; also gives the key that was forgotten to track it. -/
def attempt (limiter : Limiter) (now : Span) (text : String) : Verdict × Limiter × Option String :=
  match limiter.entries.lookup text with
  | some entry =>
    let (verdict, entry) := judge limiter.window limiter.threshold entry now
    (verdict, { limiter with entries := without text limiter.entries ++ [(text, entry)] }, none)
  | none =>
    let (entries, forgotten) := limiter.makeRoom
    (.pass, { limiter with entries := entries ++ [(text, ⟨now, 0⟩)] }, forgotten)

/-- The name of the count in a marker. -/
def countName : String := "suppressed_count"

/-- The name of the window in a marker, in milliseconds. -/
def windowName : String := "suppressed_window_ms"

def annotate (context : Context) (suppressed : Nat) (window : Span) : Context :=
  (context.insert countName (.ofInt suppressed)).insert windowName
    (.ofInt (min window.millis mostMillis : Nat))

/-- The context with which an emission goes on, if it does. -/
def offer (limiter : Limiter) (now : Span) (key : Key) (context : Context) :
    Option Context × Limiter × Journal :=
  let (verdict, next, forgotten) := limiter.attempt now key.text
  let context := match verdict with
    | .suppress => none
    | .pass => some context
    | .mark suppressed => some (annotate context suppressed limiter.window)
  (context, next, forgotten.toList.map fun text =>
    Journal.telemetry .debug s!"Dedup key capacity reached, evicting '{text}'")

end Limiter

end FeedMonitor
