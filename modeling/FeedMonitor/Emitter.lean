import FeedMonitor.Correlation
import FeedMonitor.Dedup.Limiter
import FeedMonitor.Delivery.System
import FeedMonitor.Failure
import FeedMonitor.Identity
import FeedMonitor.Settings

/-!
Where an application logs.

An emission goes past the limiter, becomes a record with the identity and the settings of the
emitter and the ids it was given, is shown locally if it is serious, and is sent to the delivery
service. Nothing of this fails for the caller.
-/

namespace FeedMonitor

/-- One call of an application. -/
structure Emission where
  severity : Severity
  message : String
  context : Context
  correlation : Correlation

/-- The local copy of a record that is shown locally. -/
def Record.echo? (record : Record) : Option Journal.Entry :=
  if record.severity.isEchoed then
    some (.echo record.severity record.message ((record.text? .event).getD "")
      ((record.data.map fun data => (Json.object data).render).getD ""))
  else none

structure Emitter where
  settings : Settings
  identity : Identity
  limiter : Limiter

namespace Emitter

inductive Outcome
  /-- The limiter dropped it. -/
  | suppressed
  /-- It was shown locally at most. -/
  | localOnly
  | queued
deriving DecidableEq

def Outcome.name : Outcome → String
  | suppressed => "suppressed"
  | localOnly => "local_only"
  | queued => "queued"

/-- The emitter of some settings, if there is room for the keys of its limiter. -/
def ofSettings? (room : Room) (settings : Settings) (identity : Identity) : Option Emitter :=
  (Limiter.reserve? room settings.dedupWindow settings.dedupThreshold settings.dedupMostKeys).map
    fun limiter => ⟨settings, identity, limiter⟩

def setDedup (emitter : Emitter) (window : Span) (threshold : Nat) : Emitter :=
  { emitter with limiter := emitter.limiter.reconfigure window threshold }

def withUserId (emitter : Emitter) (userId : String) : Emitter :=
  { emitter with identity := emitter.identity.withUserId userId }

/-- The record of an emission that the limiter let through with `context`, made at `time`. -/
def record (emitter : Emitter) (time : Instant) (emission : Emission) (event : Option String)
    (data : Option Json.Members) : Record :=
  ((((((((Record.ofMessage emission.severity emission.message time).withText .event event).withText
    .sessionId emitter.identity.sessionId).withText .userId emitter.identity.userId).withText
    .environment emitter.settings.environment).withText .source emitter.settings.source).withText
    .appVersion emitter.settings.appVersion).withText
    .correlationId emission.correlation.correlationId).withText
    .requestId emission.correlation.requestId |>.withData data

/-- The record of an emission unless it is suppressed, and what is logged about it. -/
def offer (emitter : Emitter) (now : Span) (time : Instant) (emission : Emission) :
    Option Record × Emitter × Journal :=
  let event := emission.context.event
  let key := Limiter.Key.of emission.severity emission.message event
  let (context, limiter, journal) := emitter.limiter.offer now key emission.context
  let emitter := { emitter with limiter }
  match context with
  | none => (none, emitter, journal)
  | some context =>
    let (data, more) := context.snapshot
    let record := emitter.record time emission event data
    (some record, emitter, journal ++ more ++ record.echo?.toList)

def stoppedLine : Journal.Entry :=
  Journal.telemetry .debug "Delivery service stopped, record kept local"

/-- Emits, sending the record through a channel if there is one. -/
def emit {σ : Type} (emitter : Emitter) (send? : σ → Delivery.Command → Option σ)
    (channel : Option σ) (now : Span) (time : Instant) (emission : Emission) :
    Outcome × Emitter × Option σ × Journal :=
  match emitter.offer now time emission with
  | (none, emitter, journal) => (.suppressed, emitter, channel, journal)
  | (some record, emitter, journal) =>
    match channel with
    | none => (.localOnly, emitter, none, journal)
    | some open_ =>
      match send? open_ (.enqueue record) with
      | some next => (.queued, emitter, some next, journal)
      | none => (.localOnly, emitter, channel, journal ++ [stoppedLine])

/-- What an immediate flush that failed logs. -/
def skippedLine (failure : Failure) : Journal.Entry :=
  Journal.telemetry .debug s!"Immediate flush skipped: {failure.message}"

/-- Stops the delivery service. -/
def shutdown {σ : Type} (send? : σ → Delivery.Command → Option σ) (channel : Option σ) :
    Option σ × Journal :=
  match channel with
  | none => (none, [])
  | some open_ =>
    match send? open_ .shutdown with
    | some next => (some next, [])
    | none => (channel, [Journal.telemetry .debug "Delivery service already stopped"])

end Emitter

end FeedMonitor
