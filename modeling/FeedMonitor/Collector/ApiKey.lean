import FeedMonitor.Text.Blank

/-!
The key that the collector asks for.
-/

namespace FeedMonitor.Collector

inductive ApiKey
  /-- A text known from the start. -/
  | fixed (text : String)
  /-- The answer of a lookup that is made when the key is asked for first, and then held. The number
  of lookups so far decides what another one answers. -/
  | deferred (lookup : Nat → Option String) (lookups : Nat) (held : Option (Option String))

namespace ApiKey

/-- A key that has not been looked up yet. -/
def ofLookup (lookup : Nat → Option String) : ApiKey := deferred lookup 0 none

/-- The key, if there is one. A blank text is none; what was looked up is taken as it is. -/
def resolve : ApiKey → Option String × ApiKey
  | fixed text => (if (Text.trim text).isEmpty then none else some text, fixed text)
  | deferred lookup lookups (some answer) => (answer, deferred lookup lookups (some answer))
  | deferred lookup lookups none =>
    (lookup lookups, deferred lookup (lookups + 1) (some (lookup lookups)))

def lookups : ApiKey → Nat
  | fixed _ => 0
  | deferred _ lookups _ => lookups

/-- How a key shows in texts: without any of it. -/
def description (_ : ApiKey) : String := "ApiKeyFactory"

@[simp]
theorem resolve_resolve (key : ApiKey) : key.resolve.2.resolve = key.resolve := by
  cases key with
  | fixed text => rfl
  | deferred lookup lookups held => cases held <;> rfl

end ApiKey

end FeedMonitor.Collector
