import FeedMonitor.Emitter
import FeedMonitor.Feed.Connection
import FeedMonitor.Feed.Price
import FeedMonitor.Feed.Settings

/-!
What an agent reports about itself.
-/

namespace FeedMonitor.Agent

/-- A kind of report: how serious it is, the event it is filed under and its message. -/
structure Lifecycle where
  severity : Severity
  event : String
  message : String
deriving DecidableEq

namespace Lifecycle

def started : Lifecycle := ⟨.info, "agent.started", "telemetry agent started"⟩

def stopping : Lifecycle := ⟨.info, "agent.stopping", "telemetry agent stopping"⟩

/-- The report on a state of the connection; on the way to a connection there is none. -/
def ofConnection? : Feed.Connection → Option Lifecycle
  | .connected => some ⟨.info, "stream.connected", "price stream connected"⟩
  | .disconnected => some ⟨.warn, "stream.disconnected", "price stream disconnected"⟩
  | .connecting => none

/-- The emission of a report, with values attached. -/
def emission (report : Lifecycle) (entries : List (String × Context.Value)) : Emission where
  severity := report.severity
  message := report.message
  context := entries.foldl (fun context (name, value) => context.insert name value)
    (Context.empty.withEvent report.event)
  correlation := .none

end Lifecycle

def symbolsValue (symbols : SymbolSet) : Context.Value :=
  .structured (.ofJson (.array (symbols.names.map .string)))

/-- The emission on the start of an agent. -/
def startEmission (settings : Feed.Settings) : Emission :=
  Lifecycle.started.emission
    [("stream_url", .ofString settings.url), ("symbols", symbolsValue settings.symbols)]

def stopEmission : Emission := Lifecycle.stopping.emission []

/-- The emission on a state of the connection, with the symbols and the last price of that moment. -/
def connectionEmission? (connection : Feed.Connection) (symbols : SymbolSet)
    (lastPrice : Option Feed.PriceUpdate) : Option Emission :=
  (Lifecycle.ofConnection? connection).map fun report =>
    report.emission (("symbols", symbolsValue symbols) ::
      match lastPrice with
      | some update =>
        [("last_symbol", .ofString update.symbol), ("last_price", .ofReal (some update.price))]
      | none => [])

end FeedMonitor.Agent
