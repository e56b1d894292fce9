/-!
Where a program stands with the feed.
-/

namespace FeedMonitor.Feed

inductive Connection
  | disconnected
  | connecting
  | connected
deriving DecidableEq

def Connection.name : Connection → String
  | disconnected => "disconnected"
  | connecting => "connecting"
  | connected => "connected"

/-- The latest value of something that changes, for a reader who comes by now and then. What was there
between two visits is not kept. -/
structure Watch where
  latest : Connection
  /-- Whether the latest value was put there since the reader came by. -/
  fresh : Bool
deriving DecidableEq

namespace Watch

/-- A watch whose reader knows the value it starts with. -/
def ofValue (value : Connection) : Watch := ⟨value, false⟩

/-- Puts a value there if it is another one. -/
def publish (watch : Watch) (value : Connection) : Watch :=
  if value = watch.latest then watch else ⟨value, true⟩

/-- The latest value, if the reader does not know it. -/
def visit? (watch : Watch) : Option (Connection × Watch) :=
  if watch.fresh then some (watch.latest, { watch with fresh := false }) else none

end Watch

end FeedMonitor.Feed
