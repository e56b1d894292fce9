import FeedMonitor.Delivery.Overflow
import FeedMonitor.Journal
import FeedMonitor.Room
import FeedMonitor.Sampler

/-!
The bounded queue of records that wait for delivery: first in, first out.
-/

namespace FeedMonitor.Delivery

structure Queue (α : Type) where
  /-- The head comes first. -/
  items : List α
  capacity : Nat
  policy : Overflow
  /-- Items lost to overflow. -/
  dropped : Nat
  overflowLog : Sampler
  positive : 0 < capacity
  bounded : items.length ≤ capacity

/-- What became of an item that was offered. -/
inductive Queue.Outcome (α : Type)
  | accepted
  | dropped
  /-- Accepted in the place of the head. -/
  | evicted (head : α)
deriving DecidableEq

namespace Queue

variable {α : Type}

/-- One key serves for all overflow. -/
def overflowKey : String := "overflow"

/-- Overflow is logged when it happens first and then once in so many times. -/
def overflowInterval : Nat := 100

/-- A capacity of zero acts as one. -/
def ofCapacity (capacity : Nat) (policy : Overflow) : Queue α where
  items := []
  capacity := max capacity 1
  policy := policy
  dropped := 0
  overflowLog := .ofInterval overflowInterval
  positive := Room.positive capacity
  bounded := by simp

/-- The queue, if there is room for as many items as it may hold. -/
def reserve? (room : Room) (capacity : Nat) (policy : Overflow) : Option (Queue α) :=
  if room.grants (max capacity 1) then some (ofCapacity capacity policy) else none

def size (queue : Queue α) : Nat := queue.items.length

def isEmpty (queue : Queue α) : Bool := queue.items.isEmpty

def overflowLine (capacity : Nat) (policy : Overflow) (dropped : Nat) : Journal.Entry :=
  Journal.telemetry .debug
    s!"Delivery queue full ({capacity} records), applying {policy.name} ({dropped} dropped so far)"

def enqueue (queue : Queue α) (item : α) : Outcome α × Queue α × Journal :=
  if room : queue.items.length < queue.capacity then
    (.accepted,
      { queue with
        items := queue.items ++ [item]
        bounded := by simp only [List.length_append, List.length_singleton]; omega },
      [])
  else
    let dropped := queue.dropped + 1
    let (logged, overflowLog) := queue.overflowLog.observe overflowKey
    let journal := if logged then [overflowLine queue.capacity queue.policy dropped] else []
    match queue.policy with
    | .dropNewest => (.dropped, { queue with dropped, overflowLog }, journal)
    | .dropOldest =>
      (match queue.items with
        | [] => .accepted
        | head :: _ => .evicted head,
        { queue with
          items := queue.items.drop 1 ++ [item]
          dropped
          overflowLog
          bounded := by
            have h := queue.bounded
            have p := queue.positive
            simp only [List.length_append, List.length_drop, List.length_singleton]
            omega },
        journal)

/-- Takes up to `most` items from the head. -/
def take (queue : Queue α) (most : Nat) : List α × Queue α :=
  (queue.items.take most,
    { queue with
      items := queue.items.drop most
      bounded := by
        have h := queue.bounded
        simp only [List.length_drop]
        omega })

@[simp]
theorem items_take (queue : Queue α) (most : Nat) :
    (queue.take most).2.items = queue.items.drop most := rfl

@[simp]
theorem dropped_take (queue : Queue α) (most : Nat) :
    (queue.take most).2.dropped = queue.dropped := rfl

theorem settings_enqueue (queue : Queue α) (item : α) :
    (queue.enqueue item).2.1.capacity = queue.capacity ∧
      (queue.enqueue item).2.1.policy = queue.policy := by
  unfold enqueue
  split
  · exact ⟨rfl, rfl⟩
  · cases policy : queue.policy <;> simp

/-- An offer fills a free place, or it is turned away, or it takes the place of the head. -/
theorem enqueue_cases (queue : Queue α) (item : α) :
    (queue.items.length < queue.capacity ∧ (queue.enqueue item).1 = .accepted ∧
      (queue.enqueue item).2.1.items = queue.items ++ [item] ∧
      (queue.enqueue item).2.1.dropped = queue.dropped) ∨
    (queue.items.length = queue.capacity ∧ queue.policy = .dropNewest ∧
      (queue.enqueue item).1 = .dropped ∧ (queue.enqueue item).2.1.items = queue.items ∧
      (queue.enqueue item).2.1.dropped = queue.dropped + 1) ∨
    (queue.items.length = queue.capacity ∧ queue.policy = .dropOldest ∧
      ∃ head rest, queue.items = head :: rest ∧ (queue.enqueue item).1 = .evicted head ∧
        (queue.enqueue item).2.1.items = rest ++ [item] ∧
        (queue.enqueue item).2.1.dropped = queue.dropped + 1) := by
  by_cases room : queue.items.length < queue.capacity
  · left
    simp [enqueue, room]
  · right
    have full : queue.items.length = queue.capacity := Nat.le_antisymm queue.bounded (by omega)
    cases policy : queue.policy with
    | dropNewest =>
      left
      simp [enqueue, policy, full]
    | dropOldest =>
      right
      cases items : queue.items with
      | nil =>
        have positive := queue.positive
        simp [items] at full
        omega
      | cons head rest =>
        rw [items] at room full
        refine ⟨full, rfl, head, rest, rfl, ?_⟩
        simp only [List.length_cons] at room
        simp [enqueue, room, policy, items]

/-- An offer at a queue with a free place is not logged. -/
theorem journal_enqueue_of_room {queue : Queue α} (room : queue.items.length < queue.capacity)
    (item : α) :
    (queue.enqueue item).2.2 = [] ∧ (queue.enqueue item).2.1.overflowLog = queue.overflowLog := by
  simp [enqueue, room]

/-- An offer at a full queue is logged if the overflow is sampled. -/
theorem journal_enqueue_of_full {queue : Queue α} (full : ¬queue.items.length < queue.capacity)
    (item : α) :
    (queue.enqueue item).2.2 =
        (if (queue.overflowLog.observe overflowKey).1 then
          [overflowLine queue.capacity queue.policy (queue.dropped + 1)] else []) ∧
      (queue.enqueue item).2.1.overflowLog = (queue.overflowLog.observe overflowKey).2 := by
  unfold enqueue
  rw [dif_neg full]
  cases queue.policy <;> exact ⟨rfl, rfl⟩

@[simp]
theorem take_append_items (queue : Queue α) (most : Nat) :
    (queue.take most).1 ++ (queue.take most).2.items = queue.items := by
  simp [take]

theorem length_take_le (queue : Queue α) (most : Nat) : (queue.take most).1.length ≤ most := by
  simp only [take, List.length_take]
  omega

end Queue

end FeedMonitor.Delivery
