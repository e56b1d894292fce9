import FeedMonitor.Agent.Lifecycle
import FeedMonitor.Agent.LogFilter
import FeedMonitor.Feed.Progress
import FeedMonitor.Launch
import FeedMonitor.Settings.Check
import FeedMonitor.Telemetry

/-!
The agent: it follows the price feed and reports through its own telemetry when it starts and stops
and when it gains or loses the connection.
-/

namespace FeedMonitor

structure Agent (σ : Type) where
  telemetry : Telemetry σ
  consumer : Feed.Consumer
  /-- Shows the state of the connection to the part that reports it. -/
  watch : Feed.Watch

namespace Agent

def line (severity : Severity) (text : String) : Journal.Entry := .line .agent severity text

/-- The filter of the log that an environment asks for. Without one the agent does not start. -/
def logFilter? (environment : Environment) : Option LogFilter :=
  LogFilter.parse? (((environment.value? Settings.Variable.logLevel.name).map fun value =>
    Text.lower (Text.trim value)).getD "info")

/-- How an agent ends: as intended, which includes settings that it reports as unusable, or because
there is no way to start it. -/
inductive Exit
  | regular
  | broken
deriving DecidableEq

def Exit.code : Exit → Nat
  | regular => 0
  | broken => 101

/-- The settings of both sides, if they can be used. -/
def configure (environment : Environment) : Option (Settings × Feed.Settings) × Journal :=
  let opening := [line .debug "Logging subsystem enabled"]
  match Settings.load environment with
  | (.error failure, journal) =>
    (none, opening ++ journal ++
      [line .error s!"Error creating telemetry config on agent startup: {failure.message}"])
  | (.ok settings, journal) =>
    match Feed.Settings.load environment with
    | (.error failure, more) =>
      (none, opening ++ journal ++ more ++
        [line .error s!"Error creating stream config on agent startup: {failure.message}"])
    | (.ok feed, more) => (some (settings, feed), opening ++ journal ++ more)

variable {σ : Type}

/-- Lets the agent report the connection, if it has not seen its state yet. -/
def report (agent : Agent σ) (time : Instant) : Agent σ :=
  match agent.watch.visit? with
  | none => agent
  | some (connection, watch) =>
    let agent := { agent with watch }
    match connectionEmission? connection agent.consumer.subscription.symbols
        agent.consumer.store.lastPrice with
    | some emission => { agent with telemetry := (agent.telemetry.emit time emission).2.settle }
    | none => agent

def note (agent : Agent σ) : Feed.Consumer.Effect → Agent σ
  | .log entry => { agent with telemetry := agent.telemetry.log [entry] }
  | .published connection => { agent with watch := agent.watch.publish connection }
  | .wrote _ | .paused _ => agent

/-- Lets the consumer take an event and the agent report what comes of it. -/
def take (agent : Agent σ) (time : Instant) (event : Feed.Consumer.Event) :
    List Feed.Consumer.Effect × Agent σ :=
  let (consumer, effects) := agent.consumer.take event
  (effects, (effects.foldl note { agent with consumer }).report time)

def takeAll (agent : Agent σ) (time : Instant) (events : List Feed.Consumer.Event) :
    List Feed.Consumer.Effect × Agent σ :=
  events.foldl (fun (effects, agent) event =>
    let (more, next) := agent.take time event
    (effects ++ more, next)) ([], agent)

/-- Starts: the telemetry side first, then the consumer. -/
def start (telemetry : Telemetry σ) (feed : Feed.Settings) (time : Instant) : Agent σ :=
  let opening :=
    if telemetry.delivery.isSome then [line .info "Remote telemetry delivery enabled"] else []
  let telemetry := ((telemetry.log opening).emit time (startEmission feed)).2
  let (consumer, effects) := (Feed.Consumer.ofSettings feed).settle
  (effects.foldl note ⟨telemetry, consumer, .ofValue .disconnected⟩).report time

/-- Stops: the consumer first, and once the records are delivered the telemetry side. -/
def stop (agent : Agent σ) (time : Instant) : List Feed.Consumer.Effect × Agent σ :=
  let agent :=
    { agent with telemetry := agent.telemetry.log [line .info "Shutting down telemetry agent"] }
  let (effects, agent) := agent.take time .cancel
  let (count, telemetry) := (agent.telemetry.emit time stopEmission).2.flush
  let telemetry :=
    (telemetry.log [line .debug s!"Flushed {count} telemetry records on shutdown"]).shutdown.settle
  (effects, { agent with telemetry })

end Agent

end FeedMonitor
