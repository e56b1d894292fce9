import FeedMonitor.Delivery.Timeline
import FeedMonitor.Emitter

/-!
The telemetry side of a running program: an emitter, and on the same clock the delivery service that
it sends to, if there is one.
-/

namespace FeedMonitor

open Delivery (Timeline)

structure Telemetry (σ : Type) where
  emitter : Emitter
  delivery : Option (Timeline σ)
  now : Span
  /-- What has been logged since the log was read last. -/
  journal : Journal

namespace Telemetry

variable {σ : Type}

def ofEmitter (emitter : Emitter) (delivery : Option (Timeline σ)) (journal : Journal) :
    Telemetry σ :=
  ⟨emitter, delivery, ⟨0⟩, journal⟩

def log (telemetry : Telemetry σ) (journal : Journal) : Telemetry σ :=
  { telemetry with journal := telemetry.journal ++ journal }

/-- Puts a later state of the delivery side in place, behind the log so far what that logged. -/
def withDelivery (telemetry : Telemetry σ) (timeline : Timeline σ) : Telemetry σ :=
  let (journal, timeline) := timeline.takeJournal
  { telemetry.log journal with delivery := some timeline, now := timeline.now }

/-- Lets the delivery side go on until nothing is left to do before time passes. -/
def settle (telemetry : Telemetry σ) : Telemetry σ :=
  match telemetry.delivery with
  | none => telemetry
  | some timeline => telemetry.withDelivery timeline.settle

def advance (telemetry : Telemetry σ) (span : Span) : Telemetry σ :=
  match telemetry.delivery with
  | none => { telemetry with now := ⟨telemetry.now.nanos + span.nanos⟩ }
  | some timeline => telemetry.withDelivery (timeline.advance span)

/-- Emits a record made at `time`. -/
def emit (telemetry : Telemetry σ) (time : Instant) (emission : Emission) :
    Emitter.Outcome × Telemetry σ :=
  let (outcome, emitter, delivery, journal) :=
    telemetry.emitter.emit Timeline.send? telemetry.delivery telemetry.now time emission
  (outcome, { telemetry.log journal with emitter, delivery })

/-- Changes the emitter. -/
def adjust (telemetry : Telemetry σ) (change : Emitter → Emitter) : Telemetry σ :=
  { telemetry with emitter := change telemetry.emitter }

/-- Asks the delivery service, if there is one, and waits for the reply. -/
def request (telemetry : Telemetry σ) (command : Nat → Delivery.Command) :
    Option Delivery.Reply × Telemetry σ :=
  match telemetry.delivery with
  | none => (none, telemetry)
  | some timeline =>
    let (reply, timeline) := timeline.request command
    (reply, telemetry.withDelivery timeline)

/-- Delivers what waits and gives the number of records. A flush that fails has delivered none. -/
def flush (telemetry : Telemetry σ) : Nat × Telemetry σ :=
  match telemetry.request .flush with
  | (some (.answer (.flushed count)), next) => (count, next)
  | (some reply, next) =>
    (0, next.log ((Timeline.failure "flush" reply).map Emitter.skippedLine).toList)
  | (none, next) => (0, next)

/-- Stops the delivery service. -/
def shutdown (telemetry : Telemetry σ) : Telemetry σ :=
  let (delivery, journal) := Emitter.shutdown Timeline.send? telemetry.delivery
  { telemetry.log journal with delivery }

/-- The log since it was read last. -/
def takeJournal (telemetry : Telemetry σ) : Journal × Telemetry σ :=
  (telemetry.journal, { telemetry with journal := [] })

end Telemetry

end FeedMonitor
