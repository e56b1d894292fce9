import FeedMonitor.Collector.ApiKey
import FeedMonitor.Failure
import FeedMonitor.Journal
import FeedMonitor.Settings
import FeedMonitor.Web.Header
import FeedMonitor.Web.Status

/-!
Handing a payload to the collector.

A beacon takes a small payload and gives no account of it. A request carries the key, if there is one,
and is waited for. A payload goes to the beacon if it is below the threshold and no key has to go with
it; when the beacon refuses it, it goes by request. Nothing is tried twice.
-/

namespace FeedMonitor.Collector

inductive Channel
  | beacon
  | request
deriving DecidableEq

def Channel.name : Channel → String
  | beacon => "beacon"
  | request => "request"

structure Transport where
  url : String
  timeout : Span
  key : Option ApiKey
  hasBeacon : Bool
  /-- A payload of so many bytes or more is too large for the beacon. -/
  threshold : Nat

/-- What a request comes to. -/
inductive Response
  | status (status : Web.Status)
  | failed (cause : String)

/-- How the outside reacts to one payload. -/
structure Surroundings where
  /-- Whether the beacon takes it. -/
  accepts : Bool
  response : Response

/-- What is done to the outside. -/
inductive Transport.Act
  | offered (url : String) (payload : List UInt8)
  | posted (url : String) (headers : List Web.Header) (payload : List UInt8)

namespace Transport

def usualThreshold : Nat := 60000

def ofUrl (url : String) (timeout : Span) : Transport := ⟨url, timeout, none, false, usualThreshold⟩

/-- The transport of some settings, if they name an endpoint. -/
def ofSettings? (settings : Settings) : Option Transport :=
  settings.batchUrl?.map fun url =>
    { ofUrl url settings.requestTimeout with
      hasBeacon := true
      key := settings.apiKey.map .fixed }

def choose (transport : Transport) (length : Nat) (needsKey : Bool) : Channel :=
  if transport.hasBeacon && length < transport.threshold && !needsKey then .beacon else .request

def keyHeader : String := "X-Log-Api-Key"

def contentType : Web.Header := ⟨"Content-Type", "application/json".toUTF8.toList⟩

/-- The fields of a request; a key may hold what no field may. -/
def headers (key : Option String) : Except Failure (List Web.Header) :=
  match key with
  | none => .ok [contentType]
  | some text =>
    match Web.Header.ofText? keyHeader text with
    | some header => .ok [contentType, header]
    | none => .error (.invalidConfig "invalid API key header: failed to parse header value")

/-- What a payload comes to: the channel it left on or a failure, what was done and what was logged. -/
structure Outcome where
  result : Except Failure Channel
  acts : List Act
  journal : Journal

def post (transport : Transport) (response : Response) (key : Option String)
    (payload : List UInt8) : Outcome :=
  match headers key with
  | .error failure => ⟨.error failure, [], []⟩
  | .ok headers =>
    let acts := [Act.posted transport.url headers payload]
    match response with
    | .failed cause => ⟨.error (.transport cause), acts, []⟩
    | .status status =>
      if status.isSuccess then
        ⟨.ok .request, acts,
          [Journal.telemetry .debug s!"Batch accepted with status {status.text}"]⟩
      else ⟨.error (.rejected status), acts, []⟩

def refusedLine : Journal.Entry :=
  Journal.telemetry .debug "Beacon refused payload, falling back to request"

/-- Hands a payload over. -/
def trySend (transport : Transport) (surroundings : Surroundings) (payload : List UInt8) :
    Outcome × Transport :=
  let (key, resolved) := match transport.key with
    | some source =>
      let (key, source) := source.resolve
      (key, { transport with key := some source })
    | none => (none, transport)
  match transport.choose payload.length key.isSome with
  | .beacon =>
    if surroundings.accepts then (⟨.ok .beacon, [.offered transport.url payload], []⟩, resolved)
    else
      let posted := transport.post surroundings.response key payload
      ({ posted with
        acts := .offered transport.url payload :: posted.acts
        journal := refusedLine :: posted.journal }, resolved)
  | .request => (transport.post surroundings.response key payload, resolved)

/-- How a failure is reported. -/
def failureLine : Failure → Journal.Entry
  | .rejected 401 => denied 401
  | .rejected 403 => denied 403
  | failure => Journal.telemetry .warn s!"Failed to deliver batch: {failure.message}"
where
  denied (status : Nat) : Journal.Entry :=
    Journal.telemetry .error
      s!"Batch was denied by the collector ({status}). Please verify the API key."

/-- Hands a payload over and reports a failure to the log only. -/
def send (transport : Transport) (surroundings : Surroundings) (payload : List UInt8) :
    Option Channel × List Act × Journal × Transport :=
  let (outcome, transport) := transport.trySend surroundings payload
  match outcome.result with
  | .ok channel => (some channel, outcome.acts, outcome.journal, transport)
  | .error failure => (none, outcome.acts, outcome.journal ++ [failureLine failure], transport)

/-- What a beacon logs about the answer that it gets on its own. -/
def beaconJournal : Response → Journal
  | .status status =>
    if status.isSuccess then []
    else [Journal.telemetry .debug s!"Beacon answered with {status.text}"]
  | .failed cause => [Journal.telemetry .debug s!"Beacon delivery failed: {cause}"]

end Transport

end FeedMonitor.Collector
