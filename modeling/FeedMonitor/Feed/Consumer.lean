import FeedMonitor.Failure
import FeedMonitor.Feed.Backoff
import FeedMonitor.Feed.Connection
import FeedMonitor.Feed.Intake
import FeedMonitor.Feed.Settings
import FeedMonitor.Feed.Subscription

/-!
A consumer of the feed that connects again for as long as it is not cancelled.

It connects, sends the subscription and listens. The subscription is sent again when it was changed.
When the connection ends, or there was none, it waits as long as its backoff says and connects again;
a connection that came about sets the count of failures back. A session ends only with its
connection, never on account of what a frame holds.

A step is one event. Changes of the subscription and a cancellation can come at any time, so every
order of events that the steps allow is a run.
-/

namespace FeedMonitor.Feed

/-- A frame from the feed. -/
inductive Incoming
  | text (text : String)
  | binary (bytes : List UInt8)
  | ping (payload : List UInt8)
  | pong (payload : List UInt8)
  | close
deriving DecidableEq

/-- A frame to the feed. -/
inductive Outgoing
  /-- Asks for the quotes of a set that is not empty. -/
  | subscribe (symbols : SymbolSet)
  | pong (payload : List UInt8)
  | close
deriving DecidableEq

namespace Consumer

inductive Phase
  | starting
  /-- Between two attempts, about to see whether to go on. -/
  | resting
  | connecting
  /-- In a session, about to read the symbols to subscribe to. -/
  | reading
  /-- In a session, with a frame to write. -/
  | writing (frame : Outgoing)
  /-- In a session, waiting for what comes next. -/
  | listening
  /-- Without a connection, about to see how long to wait. -/
  | parting
  | pausing (delay : Span)
  /-- Cancelled, about to stop. -/
  | leaving
  | stopped
deriving DecidableEq

inductive Event
  /-- Somebody writes a change of the subscription, and later signals it. -/
  | change (change : Subscription.Change)
  | signal
  | cancel
  /-- The consumer goes on with what it is about to do. -/
  | goOn
  | connected
  | refused (cause : String)
  | received (frame : Incoming)
  /-- The connection is at its end without a frame that closes it. -/
  | ended
  | failed (cause : String)
  /-- The consumer takes the permit that a change has left. -/
  | resubscribe
  | written
  | unwritten (cause : String)
  /-- The wait that a backoff decides on begins; `draw` is its random number. -/
  | pause (draw : Nat)
  | awake
  /-- The consumer sees that it is cancelled. -/
  | leave
deriving DecidableEq

/-- What a step does to the outside. -/
inductive Effect
  | log (entry : Journal.Entry)
  /-- The state of the connection becomes another one. -/
  | published (connection : Connection)
  | wrote (frame : Outgoing)
  | paused (delay : Span)

end Consumer

structure Consumer where
  url : String
  backoff : Backoff
  subscription : Subscription
  store : Store
  connection : Connection
  cancelled : Bool
  phase : Consumer.Phase

namespace Consumer

def ofSettings (settings : Settings) : Consumer where
  url := settings.url
  backoff := .ofPolicy settings.backoff
  subscription := .ofSymbols settings.symbols
  store := .empty
  connection := .disconnected
  cancelled := false
  phase := .starting

def line (severity : Severity) (text : String) : Effect := .log (Journal.feed severity text)

/-- Makes `connection` known unless it is known already. -/
def publish (consumer : Consumer) (connection : Connection) : Consumer × List Effect :=
  if consumer.connection = connection then (consumer, [])
  else ({ consumer with connection }, [.published connection])

/-- The session is over and the consumer goes on to `phase`. -/
def close (consumer : Consumer) (phase : Phase) (lines : List Effect) : Consumer × List Effect :=
  let (consumer, effects) := consumer.publish .disconnected
  ({ consumer with phase }, effects ++ lines)

def sessionFailed (consumer : Consumer) (failure : Failure) : Consumer × List Effect :=
  consumer.close .parting [line .warn s!"Session ended: {failure.message}"]

/-- What was about to be done is done. -/
def goOn (consumer : Consumer) : Option (Consumer × List Effect) :=
  match consumer.phase with
  | .starting =>
    some ({ consumer with phase := .resting },
      [line .info s!"Price stream started for {consumer.url}"])
  | .resting =>
    if consumer.cancelled then some ({ consumer with phase := .leaving }, [])
    else
      let (next, effects) := consumer.publish .connecting
      some ({ next with phase := .connecting },
        effects ++ [line .debug s!"Connecting to {consumer.url}"])
  | .reading =>
    if consumer.subscription.symbols.isEmpty then
      some ({ consumer with phase := .listening }, [line .debug "No symbols to subscribe to"])
    else
      some ({ consumer with phase := .writing (.subscribe consumer.subscription.symbols) }, [])
  | .leaving => some (consumer.close .stopped [line .info "Price stream stopped"])
  | _ => none

/-- The connection has come about. -/
def enter (consumer : Consumer) : Consumer × List Effect :=
  let (next, effects) := consumer.publish .connected
  ({ next with backoff := next.backoff.reset, phase := .reading },
    effects ++ [line .info s!"Connected to {consumer.url}"])

def receive (consumer : Consumer) : Incoming → Consumer × List Effect
  | .text text =>
    let (store, journal) := consumer.store.takeText consumer.subscription.symbols text
    ({ consumer with store }, journal.map .log)
  | .binary bytes =>
    let (store, journal) := consumer.store.takeBytes consumer.subscription.symbols bytes
    ({ consumer with store }, journal.map .log)
  | .ping payload => ({ consumer with phase := .writing (.pong payload) }, [])
  | .pong _ => (consumer, [])
  | .close => consumer.close .parting [line .info "Connection closed by server"]

/-- The session after a frame was written. -/
def afterWrite (consumer : Consumer) (frame : Outgoing) : Consumer × List Effect :=
  let (next, effects) : Consumer × List Effect := match frame with
    | .subscribe symbols =>
      ({ consumer with phase := .listening },
        [line .info s!"Subscribed to {symbols.size} ticker symbols"])
    | .pong _ => ({ consumer with phase := .listening }, [])
    | .close => consumer.close .leaving []
  (next, .wrote frame :: effects)

/-- The session after a frame could not be written. -/
def afterFault (consumer : Consumer) (frame : Outgoing) (cause : String) :
    Consumer × List Effect :=
  match frame with
  | .close =>
    let (next, effects) := consumer.close .leaving []
    (next, line .debug s!"Failed to send close frame: {cause}" :: effects)
  | .subscribe _ | .pong _ => consumer.sessionFailed (.send cause)

def pause (consumer : Consumer) (draw : Nat) : Consumer × List Effect :=
  let (delay, backoff) := consumer.backoff.next draw
  ({ consumer with backoff, phase := .pausing delay },
    [line .debug s!"Reconnecting in {delay.text} (attempt {backoff.failures})", .paused delay])

/-- A cancellation is seen where the consumer waits for something. -/
def leave (consumer : Consumer) : Option (Consumer × List Effect) :=
  if consumer.cancelled then
    match consumer.phase with
    | .connecting | .pausing _ => some ({ consumer with phase := .leaving }, [])
    | .listening => some ({ consumer with phase := .writing .close }, [])
    | _ => none
  else none

/-- The outcome of an event, if it can happen. -/
def step? (consumer : Consumer) (event : Event) : Option (Consumer × List Effect) :=
  match event, consumer.phase with
  | .change change, _ =>
    some ({ consumer with subscription := (consumer.subscription.write change).2 }, [])
  | .signal, _ =>
    consumer.subscription.signal?.map fun subscription => ({ consumer with subscription }, [])
  | .cancel, _ => some ({ consumer with cancelled := true }, [])
  | .goOn, _ => consumer.goOn
  | .leave, _ => consumer.leave
  | .connected, .connecting => some consumer.enter
  | .refused cause, .connecting =>
    some (consumer.close .parting [line .warn (Failure.connect cause).message])
  | .received frame, .listening => some (consumer.receive frame)
  | .ended, .listening =>
    some (consumer.close .parting [line .info "Connection closed by server"])
  | .failed cause, .listening => some (consumer.sessionFailed (.closed cause))
  | .resubscribe, .listening =>
    consumer.subscription.take?.map fun subscription =>
      ({ consumer with subscription, phase := .reading }, [])
  | .written, .writing frame => some (consumer.afterWrite frame)
  | .unwritten cause, .writing frame => some (consumer.afterFault frame cause)
  | .pause draw, .parting => some (consumer.pause draw)
  | .awake, .pausing _ => some ({ consumer with phase := .resting }, [])
  | _, _ => none

/-- The steps of a list of events, as far as they can happen. -/
def run? (consumer : Consumer) : List Event → Option (Consumer × List Effect)
  | [] => some (consumer, [])
  | event :: rest => do
    let (consumer, effects) ← consumer.step? event
    let (consumer, more) ← consumer.run? rest
    return (consumer, effects ++ more)

end Consumer

end FeedMonitor.Feed
