import FeedMonitor.Delivery.System
import FeedMonitor.Failure

/-!
A delivery system on a clock, with a sink that takes known times.

The service, its tasks and the callers that wait to ask for a flush are actors. An actor that can go
on does so before any time passes; actors take turns in the order in which they became ready. When
none is ready the clock goes on to the next alarm. Alarms ring on whole milliseconds, and alarms for
the same moment ring in the order in which they were set.
-/

namespace FeedMonitor.Delivery

inductive Actor
  | service
  | task (id : Nat)
  /-- Somebody about to ask for a flush. -/
  | caller (request : Nat)
deriving DecidableEq

/-- A delivery that the sink has seen begin. -/
structure Receipt where
  batch : List Record
  start : Span
  finish : Option Span
  task : Nat

/-- What is known of a request. -/
inductive Reply
  | answer (answer : Answer)
  /-- The service had stopped before it was asked. -/
  | unsent
  /-- The service stopped before it answered. -/
  | lost

/-- What takes the batches: its state, and what a delivery does to that and writes to the log. -/
structure Sink (σ : Type) where
  state : σ
  deliver : List Record → σ → Journal × σ

/-- A sink that only takes. -/
def Sink.silent : Sink Unit := ⟨(), fun _ _ => ([], ())⟩

structure Timeline (σ : Type) where
  now : Span
  system : System
  sink : Sink σ
  /-- How long the sink takes, for one delivery after the other, and then from the start again. -/
  pace : List Span
  /-- Handles other than those of callers. -/
  handles : Nat
  ready : List Actor
  alarms : List (Span × Actor)
  receipts : List Receipt
  replies : List (Nat × Reply)
  /-- Callers whose requests are not settled. -/
  waiting : List Nat
  nextRequest : Nat
  started : Bool
  journal : Journal

namespace Timeline

variable {σ : Type}

/-- The service is ready to start and there is one handle. -/
def ofService (service : Service) (sink : Sink σ) (pace : List Span) : Timeline σ where
  now := ⟨0⟩
  system := .ofService service
  sink := sink
  pace := pace
  handles := 1
  ready := [.service]
  alarms := []
  receipts := []
  replies := []
  waiting := []
  nextRequest := 0
  started := false
  journal := []

def isStopped (timeline : Timeline σ) : Bool := timeline.system.phase == .stopped

/-- Puts an actor at the end of those that are ready, unless it is one of them. -/
def wake (timeline : Timeline σ) (actor : Actor) : Timeline σ :=
  if timeline.ready.contains actor then timeline
  else { timeline with ready := timeline.ready ++ [actor] }

/-- The actor that waits for a task to end. -/
def waiter? (system : System) (id : Nat) : Option Actor :=
  if system.phase == .draining && system.inFlight.contains id then some .service
  else (system.tasks.find? fun task => task.after.contains id).map fun task => .task task.id

/-- Settles a request. A caller is done then and gives up its handle. -/
def settleRequest (timeline : Timeline σ) (request : Nat) (reply : Reply) : Timeline σ :=
  ({ timeline with
    replies := timeline.replies ++ [(request, reply)]
    waiting := timeline.waiting.filter fun other => other != request }).wake .service

/-- The moment of the clock at which an alarm rings. -/
def ringing (due : Span) : Span := ⟨(due.nanos + 999999) / 1000000 * 1000000⟩

def setAlarm (timeline : Timeline σ) (due : Span) (actor : Actor) : Timeline σ :=
  { timeline with alarms := timeline.alarms ++ [(due, actor)] }

/-- The time that the next delivery takes. -/
def nextPace (timeline : Timeline σ) : Span :=
  if timeline.pace.isEmpty then ⟨0⟩
  else timeline.pace.getD (timeline.receipts.length % timeline.pace.length) ⟨0⟩

def beginDelivery (timeline : Timeline σ) (id : Nat) (batch : List Record) : Timeline σ :=
  let due : Span := ringing ⟨timeline.now.nanos + timeline.nextPace.nanos⟩
  let timeline :=
    { timeline with receipts := timeline.receipts ++ [⟨batch, timeline.now, none, id⟩] }
  if due.nanos ≤ timeline.now.nanos then timeline else timeline.setAlarm due (.task id)

def endDelivery (timeline : Timeline σ) (id : Nat) (batch : List Record) : Timeline σ :=
  let (journal, state) := timeline.sink.deliver batch timeline.sink.state
  { timeline with
    sink := { timeline.sink with state }
    journal := timeline.journal ++ journal
    receipts := timeline.receipts.map fun receipt =>
      if receipt.task = id && receipt.finish.isNone then { receipt with finish := timeline.now }
      else receipt }

def note (timeline : Timeline σ) : Effect → Timeline σ
  | .log entry => { timeline with journal := timeline.journal ++ [entry] }
  | .begun id batch => timeline.beginDelivery id batch
  | .delivered id batch => timeline.endDelivery id batch
  | .answered request answer => timeline.settleRequest request (.answer answer)
  | .lost request => timeline.settleRequest request .lost
  | .offered _ _ | .formed _ _ => timeline

/-- Makes the tasks ready that a step has added. -/
def wakeTasks (timeline : Timeline σ) (before : Nat) : Timeline σ :=
  (timeline.system.tasks.filter fun task => before ≤ task.id).foldl
    (fun timeline task => timeline.wake (.task task.id)) timeline

/-- Keeps the alarm of the service to its timer. -/
def followTimer (timeline : Timeline σ) (before : Option Span) : Timeline σ :=
  let timer := if timeline.system.phase = .running then timeline.system.service.timer else none
  if timer = before then timeline
  else
    let alarms := timeline.alarms.filter fun alarm => alarm.2 != .service
    { timeline with
      alarms := alarms ++ (timer.toList.map fun due => (ringing due, Actor.service)) }

/-- Takes a step of the system, if it can happen. -/
def step? (timeline : Timeline σ) (event : Event) : Option (Timeline σ) :=
  (timeline.system.step? event).map fun (system, effects) =>
    let timer := if timeline.system.phase = .running then timeline.system.service.timer else none
    let next := effects.foldl note { timeline with system }
    (next.wakeTasks timeline.system.nextTask).followTimer timer

/-! ### Turns -/

def isDue (timeline : Timeline σ) : Bool :=
  timeline.system.service.timer.any fun due => (ringing due).nanos ≤ timeline.now.nanos

/-- The next event of the service: commands go before the timer. -/
def serviceEvent? (timeline : Timeline σ) : Option Event :=
  match timeline.system.phase with
  | .running =>
    if !timeline.system.inbox.isEmpty then some (.handle timeline.now)
    else if timeline.handles == 0 && timeline.waiting.isEmpty then some .leave
    else if timeline.isDue then some (.fire timeline.now)
    else none
  | .draining => some .stop
  | .stopped => none

/-- The next event of a task, unless the sink is still at work on its batch. -/
def taskEvent? (timeline : Timeline σ) (id : Nat) : Option Event :=
  match timeline.system.task? id with
  | none => none
  | some task =>
    if timeline.alarms.any fun alarm => alarm.2 == .task id then none
    else if task.current.isSome then some (.deliver id)
    else if task.batches.isEmpty then some (.finish id)
    else some (.begin id)

/-- Lets the service or a task go on for as long as it can. -/
def keepGoing (event? : Timeline σ → Option Event) : Nat → Timeline σ → Timeline σ
  | 0, timeline => timeline
  | fuel + 1, timeline =>
    match (event? timeline).bind timeline.step? with
    | some next => keepGoing event? fuel next
    | none => timeline

/-- Sends a command through a handle, if the service takes it. -/
def send? (timeline : Timeline σ) (command : Command) : Option (Timeline σ) :=
  (timeline.system.send? command).map fun system => ({ timeline with system }).wake .service

def announce (timeline : Timeline σ) : Timeline σ :=
  if timeline.started then timeline
  else
    { timeline with
      started := true
      journal := timeline.journal ++ [Journal.telemetry .debug "Delivery service started"] }

def turn (fuel : Nat) (timeline : Timeline σ) : Actor → Timeline σ
  | .service => keepGoing serviceEvent? fuel timeline.announce
  | .task id =>
    let next := keepGoing (taskEvent? · id) fuel timeline
    if next.system.isLive id then next
    else
      match waiter? next.system id with
      | some actor => next.wake actor
      | none => next
  | .caller request =>
    match timeline.send? (.flush request) with
    | some next => next
    | none => timeline.settleRequest request .unsent

/-- More than there are turns and steps until nothing is ready. -/
def fuel (timeline : Timeline σ) : Nat :=
  let system := timeline.system
  16 + 16 * (system.inbox.length + system.service.queue.size + timeline.ready.length
    + timeline.waiting.length + system.tasks.foldl (fun sum task => sum + task.batches.length + 2) 0)

def takeTurns : Nat → Timeline σ → Timeline σ
  | 0, timeline => timeline
  | fuel + 1, timeline =>
    match timeline.ready with
    | [] => timeline
    | actor :: rest => takeTurns fuel (turn timeline.fuel { timeline with ready := rest } actor)

/-- Lets every actor go on until none can without time passing. -/
def settle (timeline : Timeline σ) : Timeline σ := takeTurns timeline.fuel timeline

/-! ### Time -/

/-- The moment of the next alarm. -/
def nextAlarm? (timeline : Timeline σ) : Option Span :=
  timeline.alarms.foldl (fun first alarm =>
    match first with
    | none => some alarm.1
    | some due => if alarm.1.nanos < due.nanos then some alarm.1 else some due) none

/-- Goes to a moment, rings the alarms that are due then and settles. -/
def goTo (timeline : Timeline σ) (moment : Span) : Timeline σ :=
  let due := timeline.alarms.filter fun alarm => alarm.1.nanos ≤ moment.nanos
  let timeline :=
    { timeline with
      now := moment
      alarms := timeline.alarms.filter fun alarm => moment.nanos < alarm.1.nanos }
  (due.foldl (fun timeline alarm => timeline.wake alarm.2) timeline).settle

/-- Rings every alarm up to a moment, in order. -/
def goThrough (moment : Span) : Nat → Timeline σ → Timeline σ
  | 0, timeline => timeline
  | fuel + 1, timeline =>
    match timeline.nextAlarm? with
    | some due =>
      if due.nanos ≤ moment.nanos then goThrough moment fuel (timeline.goTo due) else timeline
    | none => timeline

/-- Lets a span of time pass. -/
def advance (timeline : Timeline σ) (span : Span) : Timeline σ :=
  let moment : Span := ⟨timeline.now.nanos + span.nanos⟩
  let timeline := timeline.settle
  { goThrough moment timeline.fuel timeline with now := moment }

/-! ### Requests -/

def reply? (timeline : Timeline σ) (request : Nat) : Option Reply := timeline.replies.lookup request

/-- A request under a number of its own. -/
def ask (timeline : Timeline σ) (command : Nat → Command) : Nat × Timeline σ :=
  let request := timeline.nextRequest
  let timeline := { timeline with nextRequest := request + 1 }
  (request,
    match timeline.send? (command request) with
    | some next => next
    | none => timeline.settleRequest request .unsent)

/-- Lets time pass until a request has a reply, or nothing is left that could give it one. -/
def await (request : Nat) : Nat → Timeline σ → Timeline σ
  | 0, timeline => timeline
  | fuel + 1, timeline =>
    match timeline.reply? request, timeline.nextAlarm? with
    | none, some due => await request fuel (timeline.goTo due)
    | _, _ => timeline

/-- Asks, and waits for the reply. -/
def request (timeline : Timeline σ) (command : Nat → Command) : Option Reply × Timeline σ :=
  let (request, timeline) := timeline.ask command
  let timeline := timeline.settle
  let timeline := await request timeline.fuel timeline
  (timeline.reply? request, timeline)

/-- Lets a caller of its own ask for a flush when it gets its turn. -/
def startFlush (timeline : Timeline σ) : Nat × Timeline σ :=
  let request := timeline.nextRequest
  (request,
    ({ timeline with
      nextRequest := request + 1
      waiting := timeline.waiting ++ [request] }).wake (.caller request))

/-- Waits for the replies to some requests. -/
def join (timeline : Timeline σ) (requests : List Nat) : Timeline σ :=
  requests.foldl (fun timeline request => await request timeline.fuel timeline) timeline.settle

/-- Gives up the last handle. -/
def dropHandle (timeline : Timeline σ) : Timeline σ :=
  ({ timeline with handles := timeline.handles - 1 }).wake .service

/-- The failure of a request that was not answered. -/
def failure (what : String) : Reply → Option Failure
  | .answer _ => none
  | .unsent => some (.serviceUnavailable s!"Failed to send {what} command: channel closed")
  | .lost => some (.serviceUnavailable s!"Failed to receive {what} response: channel closed")

/-- The entries of the log since it was read last. -/
def takeJournal (timeline : Timeline σ) : Journal × Timeline σ :=
  (timeline.journal, { timeline with journal := [] })

end Timeline

end FeedMonitor.Delivery
