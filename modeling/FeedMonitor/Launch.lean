import FeedMonitor.Collector.Sink
import FeedMonitor.Telemetry

/-!
Starting the telemetry side from settings.

With remote delivery there is a service that feeds the collector; without it records stay local.
-/

namespace FeedMonitor

structure Launch where
  emitter : Emitter
  /-- The delivery service and how it reaches the collector. -/
  remote : Option (Delivery.Service × Collector.Transport)

namespace Launch

/-- The service of some settings, if there is room for the records that may wait. -/
def service? (room : Room) (settings : Settings) : Option Delivery.Service :=
  (Delivery.Queue.reserve? room settings.queueCapacity settings.overflow).map fun queue =>
    .ofQueue queue settings.batchSize settings.flushInterval

def transport? (settings : Settings) : Option Collector.Transport :=
  if settings.remoteEnabled then Collector.Transport.ofSettings? settings else none

def localLine : Journal.Entry :=
  Journal.telemetry .debug "Remote delivery disabled, records stay local"

/-- Starts with the identity of a new session. There is nothing to start with if the settings ask for
room that is not granted, for the records that may wait or for the keys that may be tracked. -/
def ofSettings? (records keys : Room) (settings : Settings) (disk : Disk) (sessionId unique : String) :
    Option Launch × Disk × Journal :=
  let (identity, kept, journal) := Identity.resolve disk settings.identityFile sessionId unique
  match transport? settings with
  | some transport =>
    match service? records settings with
    | none => (none, disk, [])
    | some service =>
      ((Emitter.ofSettings? keys settings identity).map fun emitter =>
        ⟨emitter, some (service, transport)⟩, kept, journal)
  | none =>
    ((Emitter.ofSettings? keys settings identity).map fun emitter => ⟨emitter, none⟩, kept,
      localLine :: journal)

/-- The telemetry side after a launch, with what was logged before, while the collector reacts as
`surroundings` has it. -/
def telemetry (launch : Launch) (surroundings : Collector.Surroundings) (journal : Journal) :
    Telemetry Collector.Transport :=
  .ofEmitter launch.emitter
    (launch.remote.map fun (service, transport) =>
      Delivery.Timeline.ofService service (transport.sink surroundings) []) journal

end Launch

end FeedMonitor
