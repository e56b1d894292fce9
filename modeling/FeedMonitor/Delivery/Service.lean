import FeedMonitor.Delivery.Queue
import FeedMonitor.Record
import FeedMonitor.Time.Span

/-!
The delivery service: what a command and what the timer does to the queue.

The first record that waits sets the timer, and later ones leave it as it is. When the timer fires,
one batch leaves the head of the queue, and the timer is set again if records are left. A flush turns
the timer off and takes all batches at once. Every batch can be written, since all that a record
holds can: none is given up on the way from the queue to its payload.

Main statements: batches put together are the items they were made of, and none is empty or larger
than the batch size.
-/

namespace FeedMonitor.Delivery

/-- Consecutive batches of `size` items; the last one has what is left. -/
def batches {α : Type} (size : Nat) (sized : 0 < size) (items : List α) : List (List α) :=
  match items with
  | [] => []
  | head :: rest => (head :: rest).take size :: batches size sized ((head :: rest).drop size)
termination_by items.length
decreasing_by simp only [List.length_drop, List.length_cons]; omega

theorem flatten_batches {α : Type} (size : Nat) (sized : 0 < size) (items : List α) :
    (batches size sized items).flatten = items := by
  fun_induction batches size sized items with
  | case1 => rfl
  | case2 head rest ih => rw [List.flatten_cons, ih, List.take_append_drop]

theorem mem_batches {α : Type} {size : Nat} {sized : 0 < size} {items batch : List α}
    (member : batch ∈ batches size sized items) : 0 < batch.length ∧ batch.length ≤ size := by
  fun_induction batches size sized items with
  | case1 => simp at member
  | case2 head rest ih =>
    rcases List.mem_cons.mp member with rfl | member
    · simp only [List.length_take, List.length_cons]
      omega
    · exact ih member

structure Service where
  queue : Queue Record
  batchSize : Nat
  sized : 0 < batchSize
  /-- From the first record that waits to the next batch. -/
  interval : Span
  /-- When the timer fires, if it is set. -/
  timer : Option Span
  /-- Batches formed so far. -/
  formed : Nat

/-- Counts that the service reports. -/
structure Stats where
  pending : Nat
  dropped : Nat
  formed : Nat
deriving DecidableEq

namespace Service

/-- A batch size of zero acts as one. -/
def ofQueue (queue : Queue Record) (batchSize : Nat) (interval : Span) : Service :=
  ⟨queue, max batchSize 1, Room.positive batchSize, interval, none, 0⟩

def setTimer (service : Service) (now : Span) : Span := ⟨now.nanos + service.interval.nanos⟩

def evictionLine (head : Record) : Journal.Entry :=
  Journal.telemetry .debug s!"Evicted record '{head.message}' to make room"

/-- Queues a record and sets the timer unless it is set. -/
def enqueue (service : Service) (now : Span) (record : Record) :
    Queue.Outcome Record × Service × Journal :=
  let (outcome, queue, journal) := service.queue.enqueue record
  let evicted := match outcome with
    | .evicted head => [evictionLine head]
    | .accepted | .dropped => []
  (outcome, { service with queue, timer := service.timer <|> some (service.setTimer now) },
    journal ++ evicted)

def batchLine (batch : List Record) : Journal.Entry :=
  Journal.telemetry .debug s!"Flushing batch of {batch.length} records"

/-- The batch that leaves when the timer fires, if any record waits. -/
def fire (service : Service) (now : Span) : Option (List Record) × Service × Journal :=
  let (batch, queue) := service.queue.take service.batchSize
  let timer := if queue.isEmpty then none else some (service.setTimer now)
  if batch.isEmpty then (none, { service with queue, timer }, [])
  else (some batch, { service with queue, timer, formed := service.formed + 1 }, [batchLine batch])

/-- The batches of all records that wait. -/
def flush (service : Service) : List (List Record) × Service :=
  let taken := batches service.batchSize service.sized service.queue.items
  (taken, { service with
    queue := (service.queue.take service.queue.size).2
    timer := none
    formed := service.formed + taken.length })

def stats (service : Service) : Stats :=
  ⟨service.queue.size, service.queue.dropped, service.formed⟩

/-- What a service is set up with. -/
def settings (service : Service) : Nat × Overflow × Nat × Span :=
  (service.queue.capacity, service.queue.policy, service.batchSize, service.interval)

theorem queue_enqueue (service : Service) (now : Span) (record : Record) :
    (service.enqueue now record).1 = (service.queue.enqueue record).1 ∧
      (service.enqueue now record).2.1.queue = (service.queue.enqueue record).2.1 ∧
      (service.enqueue now record).2.1.formed = service.formed := ⟨rfl, rfl, rfl⟩

theorem settings_enqueue (service : Service) (now : Span) (record : Record) :
    (service.enqueue now record).2.1.settings = service.settings := by
  obtain ⟨capacity, policy⟩ := service.queue.settings_enqueue record
  simp only [settings, enqueue, capacity, policy]

theorem settings_flush (service : Service) : service.flush.2.settings = service.settings := rfl

theorem isEmpty_take (service : Service) :
    (service.queue.items.take service.batchSize).isEmpty = service.queue.items.isEmpty := by
  have sized := service.sized
  cases service.queue.items with
  | nil => simp
  | cons head rest => cases size : service.batchSize <;> simp_all

theorem fire_of_empty {service : Service} (empty : service.queue.items = []) (now : Span) :
    service.fire now =
      (none, { service with queue := (service.queue.take service.batchSize).2, timer := none }, []) := by
  simp [fire, Queue.take, Queue.isEmpty, empty]

theorem fire_of_waiting {service : Service} (waiting : service.queue.items ≠ []) (now : Span) :
    service.fire now =
      (some (service.queue.items.take service.batchSize),
        { service with
          queue := (service.queue.take service.batchSize).2
          timer :=
            if service.queue.items.drop service.batchSize = [] then none
            else some (service.setTimer now)
          formed := service.formed + 1 },
        [batchLine (service.queue.items.take service.batchSize)]) := by
  have taken : (service.queue.items.take service.batchSize).isEmpty = false := by
    rw [isEmpty_take]
    simpa using waiting
  simp [fire, Queue.take, Queue.isEmpty, taken]

theorem settings_fire (service : Service) (now : Span) :
    (service.fire now).2.1.settings = service.settings := by
  by_cases empty : service.queue.items = []
  · rw [fire_of_empty empty]
    rfl
  · rw [fire_of_waiting empty]
    rfl

/-- Nothing leaves when the timer fires only if nothing waits. -/
theorem fire_eq_none {service next : Service} {now : Span} {journal : Journal}
    (fired : service.fire now = (none, next, journal)) :
    service.queue.items = [] ∧ next.queue.items = [] ∧
      next.queue.dropped = service.queue.dropped ∧ next.formed = service.formed := by
  by_cases empty : service.queue.items = []
  · rw [fire_of_empty empty] at fired
    cases fired
    simp [empty]
  · rw [fire_of_waiting empty] at fired
    cases fired

theorem fire_eq_some {service next : Service} {now : Span} {batch : List Record}
    {journal : Journal} (fired : service.fire now = (some batch, next, journal)) :
    service.queue.items ≠ [] ∧ batch = service.queue.items.take service.batchSize ∧
      next.queue.items = service.queue.items.drop service.batchSize ∧
      next.queue.dropped = service.queue.dropped ∧ next.formed = service.formed + 1 := by
  by_cases empty : service.queue.items = []
  · rw [fire_of_empty empty] at fired
    cases fired
  · rw [fire_of_waiting empty] at fired
    cases fired
    exact ⟨empty, rfl, rfl, rfl, rfl⟩

@[simp]
theorem flatten_flush (service : Service) : service.flush.1.flatten = service.queue.items :=
  flatten_batches ..

@[simp]
theorem items_flush (service : Service) : service.flush.2.queue.items = [] := by
  simp [flush, Queue.size]

@[simp]
theorem dropped_flush (service : Service) :
    service.flush.2.queue.dropped = service.queue.dropped := rfl

@[simp]
theorem formed_flush (service : Service) :
    service.flush.2.formed = service.formed + service.flush.1.length := rfl

end Service

end FeedMonitor.Delivery
