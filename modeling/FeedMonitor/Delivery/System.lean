import FeedMonitor.Delivery.Service

/-!
The service, the commands that wait for it and the tasks that deliver what it took from its queue.

Deliveries do not hold the service up. A batch taken by the timer has a task of its own. A flush has
one task for all of its batches: it waits for the tasks that the service had when it handled the
flush, delivers the batches one after the other and then answers. When the service leaves its loop it
waits for its tasks and stops; commands that are still unread then are lost.

A step is one event and does nothing but what the event says, so every order of events that the steps
allow is a run.
-/

namespace FeedMonitor.Delivery

/-- What a handle asks for. A request has a number by which its answer is known. -/
inductive Command
  | enqueue (record : Record)
  | flush (request : Nat)
  | stats (request : Nat)
  | shutdown

/-- The request of a command that is answered. -/
def Command.request? : Command → Option Nat
  | flush request | stats request => some request
  | enqueue _ | shutdown => none

inductive Answer
  /-- How many records a flush took. -/
  | flushed (count : Nat)
  | stats (stats : Stats)
deriving DecidableEq

structure Task where
  id : Nat
  /-- Tasks that end before this one begins to deliver. -/
  after : List Nat
  /-- Batches not yet begun. -/
  batches : List (List Record)
  /-- The batch that is being delivered. -/
  current : Option (List Record)
  /-- The request answered at the end and the number of records it took. -/
  reply : Option (Nat × Nat)

inductive Phase
  /-- Commands are handled. -/
  | running
  /-- The loop is left and tasks are waited for. -/
  | draining
  | stopped
deriving DecidableEq

structure System where
  service : Service
  /-- Commands sent and not yet handled, the first sent first. -/
  inbox : List Command
  phase : Phase
  /-- Tasks that have not ended. -/
  tasks : List Task
  /-- Tasks that the next flush, or the end, waits for. -/
  inFlight : List Nat
  nextTask : Nat

/-- What a step does to the outside. -/
inductive Effect
  | log (entry : Journal.Entry)
  | offered (record : Record) (outcome : Queue.Outcome Record)
  /-- A batch leaves the queue for a task that will deliver it. -/
  | formed (task : Nat) (batch : List Record)
  | begun (task : Nat) (batch : List Record)
  | delivered (task : Nat) (batch : List Record)
  | answered (request : Nat) (answer : Answer)
  /-- A request that nobody will answer. -/
  | lost (request : Nat)

inductive Event
  /-- A handle asks for something. -/
  | send (command : Command)
  /-- The service handles the next command. -/
  | handle (now : Span)
  | fire (now : Span)
  /-- The service notices that there are no commands and no handles left. -/
  | leave
  /-- The service ends, once its tasks have. -/
  | stop
  /-- A task begins its next delivery. -/
  | begin (task : Nat)
  | deliver (task : Nat)
  /-- A task that has nothing left ends. -/
  | finish (task : Nat)

namespace System

def ofService (service : Service) : System := ⟨service, [], .running, [], [], 0⟩

/-- Commands are taken until the service has stopped, whether or not they will be handled. -/
def send? (system : System) (command : Command) : Option System :=
  if system.phase = .stopped then none
  else some { system with inbox := system.inbox ++ [command] }

def task? (system : System) (id : Nat) : Option Task :=
  system.tasks.find? fun task => task.id == id

def isLive (system : System) (id : Nat) : Bool := (system.task? id).isSome

/-- Whether none of some tasks is left. -/
def haveEnded (system : System) (ids : List Nat) : Bool := ids.all fun id => !system.isLive id

def putTask (system : System) (task : Task) : System :=
  { system with
    tasks := system.tasks.map fun other => if other.id = task.id then task else other }

def addTask (system : System) (after : List Nat) (batches : List (List Record))
    (reply : Option (Nat × Nat)) : System :=
  { system with
    tasks := system.tasks ++ [⟨system.nextTask, after, batches, none, reply⟩]
    nextTask := system.nextTask + 1 }

def logs (journal : Journal) : List Effect := journal.map .log

def serviceLine (text : String) : Effect := .log (Journal.telemetry .debug text)

/-- Leaves the loop; records that still wait are reported. -/
def drain (system : System) : System × List Effect :=
  ({ system with phase := .draining },
    if system.service.queue.isEmpty then []
    else [.log (Journal.telemetry .warn
      s!"Delivery service stopped with {system.service.queue.size} undelivered records")])

def handle (system : System) (now : Span) : Command → System × List Effect
  | .enqueue record =>
    let (outcome, service, journal) := system.service.enqueue now record
    ({ system with service }, .offered record outcome :: logs journal)
  | .flush request =>
    let (taken, service) := system.service.flush
    let added := ({ system with service }).addTask system.inFlight taken
      (some (request, taken.flatten.length))
    ({ added with inFlight := [system.nextTask] }, taken.map (.formed system.nextTask))
  | .stats request => (system, [.answered request (.stats system.service.stats)])
  | .shutdown =>
    let (system, effects) := system.drain
    (system, serviceLine "Delivery service shutting down" :: effects)

def fire (system : System) (now : Span) : System × List Effect :=
  match system.service.fire now with
  | (none, service, journal) => ({ system with service }, logs journal)
  | (some batch, service, journal) =>
    let added := ({ system with service }).addTask [] [batch] none
    ({ added with inFlight := system.inFlight ++ [system.nextTask] },
      .formed system.nextTask batch :: logs journal)

def finish (system : System) (task : Task) : System × List Effect :=
  ({ system with tasks := system.tasks.filter fun other => other.id != task.id },
    match task.reply with
    | none => []
    | some (request, count) =>
      [serviceLine s!"Immediate flush delivered {count} records",
        .answered request (.flushed count)])

/-- The outcome of an event, if it can happen. -/
def step? (system : System) : Event → Option (System × List Effect)
  | .send command => (system.send? command).map (·, [])
  | .handle now =>
    match system.phase, system.inbox with
    | .running, command :: inbox => some (({ system with inbox }).handle now command)
    | _, _ => none
  | .fire now =>
    if system.phase = .running ∧ system.service.timer.isSome then some (system.fire now) else none
  | .leave =>
    if system.phase = .running ∧ system.inbox.isEmpty then
      let (system, effects) := system.drain
      some (system, serviceLine "All delivery handles dropped" :: effects)
    else none
  | .stop =>
    if system.phase = .draining ∧ system.haveEnded system.inFlight then
      some ({ system with phase := .stopped, inbox := [] },
        (system.inbox.filterMap Command.request?).map .lost)
    else none
  | .begin id =>
    match system.task? id with
    | some task =>
      match task.current, task.batches with
      | none, batch :: rest =>
        if system.haveEnded task.after then
          some (system.putTask { task with current := some batch, batches := rest },
            [.begun id batch])
        else none
      | _, _ => none
    | none => none
  | .deliver id =>
    match system.task? id with
    | some task =>
      task.current.map fun batch =>
        (system.putTask { task with current := none }, [.delivered id batch])
    | none => none
  | .finish id =>
    match system.task? id with
    | some task =>
      if task.current.isNone ∧ task.batches.isEmpty ∧ system.haveEnded task.after then
        some (system.finish task)
      else none
    | none => none

/-- The steps of a list of events, as far as they can happen. -/
def run? (system : System) : List Event → Option (System × List Effect)
  | [] => some (system, [])
  | event :: rest => do
    let (system, effects) ← system.step? event
    let (system, more) ← system.run? rest
    return (system, effects ++ more)

theorem id_of_task? {system : System} {id : Nat} {task : Task}
    (found : system.task? id = some task) : task.id = id := by
  simpa using List.find?_some found

theorem isLive_of_task? {system : System} {id : Nat} {task : Task}
    (found : system.task? id = some task) : system.isLive id = true := by
  rw [isLive, found, Option.isSome_some]

theorem task?_putTask (system : System) (task : Task) (id : Nat) :
    (system.putTask task).task? id =
      if id = task.id then (system.task? id).map fun _ => task else system.task? id := by
  simp only [putTask, task?]
  induction system.tasks with
  | nil => simp
  | cons other rest ih => grind

theorem task?_addTask (system : System) (after : List Nat) (batches : List (List Record))
    (reply : Option (Nat × Nat)) (id : Nat) :
    (system.addTask after batches reply).task? id =
      (system.task? id).or
        (if system.nextTask = id then some ⟨system.nextTask, after, batches, none, reply⟩
          else none) := by
  simp only [addTask, task?, List.find?_append, List.find?_singleton, beq_iff_eq]

theorem task?_finish (system : System) (task : Task) (id : Nat) :
    (system.finish task).1.task? id = if id = task.id then none else system.task? id := by
  simp only [finish, task?]
  induction system.tasks with
  | nil => simp
  | cons other rest ih => grind

end System

end FeedMonitor.Delivery
