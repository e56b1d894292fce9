import FeedMonitor.Delivery.Queue
import FeedMonitor.Proofs.Sampler
import Mathlib.Data.List.DropRight
import Mathlib.Data.List.Infix
import Mathlib.Data.List.Induction

/-!
Queues with different policies run in step.

A policy decides which items are lost and never how many. So queues of one capacity that go through
the same acts agree in their sizes, in what they have lost and in when they log it. How many items
they hold is told by the acts alone, and the one that gives up its head holds so many of those that
were offered last.
-/

namespace FeedMonitor.Delivery.Queue

inductive Act (α : Type)
  | offer (item : α)
  | take (most : Nat)

variable {α : Type}

def Act.items : Act α → List α
  | .offer item => [item]
  | .take _ => []

def act (queue : Queue α) : Act α → Queue α × Journal
  | .offer item => (queue.enqueue item).2
  | .take most => ((queue.take most).2, [])

def after (queue : Queue α) (acts : List (Act α)) : Queue α :=
  acts.foldl (fun queue act => (queue.act act).1) queue

def Outcome.isAccepted : Outcome α → Bool
  | .accepted => true
  | .dropped | .evicted _ => false

/-- What becomes of the item that is offered, if one is. -/
def outcome (queue : Queue α) : Act α → List (Outcome α)
  | .offer item => [(queue.enqueue item).1]
  | .take _ => []

def outcomes (queue : Queue α) : List (Act α) → List (Outcome α)
  | [] => []
  | first :: rest => queue.outcome first ++ (queue.act first).1.outcomes rest

def journal (queue : Queue α) : List (Act α) → Journal
  | [] => []
  | first :: rest => (queue.act first).2 ++ (queue.act first).1.journal rest

/-- How many items are held after a sequence of acts where there is room for `capacity` of them. -/
def heldAfter (capacity : Nat) (acts : List (Act α)) : Nat :=
  acts.foldl (fun held act => match act with
    | .offer _ => min (held + 1) capacity
    | .take most => held - most) 0

theorem after_concat (queue : Queue α) (acts : List (Act α)) (act : Act α) :
    queue.after (acts ++ [act]) = ((queue.after acts).act act).1 := List.foldl_append

theorem journal_concat (queue : Queue α) (acts : List (Act α)) (act : Act α) :
    queue.journal (acts ++ [act]) = queue.journal acts ++ ((queue.after acts).act act).2 := by
  induction acts generalizing queue with
  | nil => exact List.append_nil _
  | cons first rest ih =>
    rw [List.cons_append, journal, ih, journal, List.append_assoc]
    rfl

/-! ### Offers -/

theorem isAccepted_enqueue (queue : Queue α) (item : α) :
    (queue.enqueue item).1.isAccepted = decide (queue.items.length < queue.capacity) := by
  rcases queue.enqueue_cases item with ⟨room, outcome, -⟩ | ⟨full, -, outcome, -⟩ |
    ⟨full, -, head, rest, -, outcome, -⟩
  · simp [room, outcome, Outcome.isAccepted]
  · simp [full, outcome, Outcome.isAccepted]
  · simp [full, outcome, Outcome.isAccepted]

theorem length_items_enqueue (queue : Queue α) (item : α) :
    (queue.enqueue item).2.1.items.length = min (queue.items.length + 1) queue.capacity := by
  rcases queue.enqueue_cases item with ⟨room, -, items, -⟩ | ⟨full, -, -, items, -⟩ |
    ⟨full, -, head, rest, before, -, items, -⟩
  · rw [items, List.length_append, List.length_singleton]
    omega
  · rw [items]
    omega
  · rw [items, List.length_append, List.length_singleton]
    rw [before, List.length_cons] at full ⊢
    omega

theorem dropped_enqueue (queue : Queue α) (item : α) :
    (queue.enqueue item).2.1.dropped =
      if queue.items.length < queue.capacity then queue.dropped else queue.dropped + 1 := by
  rcases queue.enqueue_cases item with ⟨room, -, -, dropped⟩ | ⟨full, -, -, -, dropped⟩ |
    ⟨full, -, head, rest, -, -, -, dropped⟩
  · rw [if_pos room, dropped]
  · rw [if_neg (by omega), dropped]
  · rw [if_neg (by omega), dropped]

theorem suffix_enqueue {queue : Queue α} (policy : queue.policy = .dropOldest) (item : α) :
    (queue.enqueue item).2.1.items <:+ queue.items ++ [item] := by
  rcases queue.enqueue_cases item with ⟨-, -, items, -⟩ | ⟨-, newest, -⟩ |
    ⟨-, -, head, rest, before, -, items, -⟩
  · rw [items]
  · rw [policy] at newest
    contradiction
  · rw [items, before]
    exact List.suffix_cons head (rest ++ [item])

/-! ### Two queues -/

/-- Queues that differ at most in what they hold and in which items they give up. -/
structure Alike (queue other : Queue α) : Prop where
  capacity : queue.capacity = other.capacity
  size : queue.items.length = other.items.length
  dropped : queue.dropped = other.dropped

theorem Alike.act {queue other : Queue α} (alike : Alike queue other) (act : Act α) :
    Alike (queue.act act).1 (other.act act).1 := by
  cases act with
  | offer item =>
    -- Both have a free place or neither has, whatever they hold.
    have room : queue.items.length < queue.capacity ↔ other.items.length < other.capacity := by
      rw [alike.size, alike.capacity]
    refine ⟨?_, ?_, ?_⟩
    · exact (queue.settings_enqueue item).1.trans
        (alike.capacity.trans (other.settings_enqueue item).1.symm)
    · simp only [Queue.act, length_items_enqueue, alike.size, alike.capacity]
    · simp only [Queue.act, dropped_enqueue, room, alike.dropped]
  | take most =>
    refine ⟨alike.capacity, ?_, alike.dropped⟩
    simp only [Queue.act, items_take, List.length_drop, alike.size]

theorem Alike.isAccepted_outcome {queue other : Queue α} (alike : Alike queue other) (act : Act α) :
    (queue.outcome act).map Outcome.isAccepted = (other.outcome act).map Outcome.isAccepted := by
  cases act with
  | offer item =>
    simp only [outcome, List.map_singleton, isAccepted_enqueue, alike.size, alike.capacity]
  | take most => rfl

theorem Alike.after {queue other : Queue α} (alike : Alike queue other) (acts : List (Act α)) :
    Alike (queue.after acts) (other.after acts) := by
  induction acts generalizing queue other with
  | nil => exact alike
  | cons first rest ih => exact ih (alike.act first)

theorem Alike.isAccepted_outcomes {queue other : Queue α} (alike : Alike queue other)
    (acts : List (Act α)) :
    (queue.outcomes acts).map Outcome.isAccepted =
      (other.outcomes acts).map Outcome.isAccepted := by
  induction acts generalizing queue other with
  | nil => rfl
  | cons first rest ih =>
    rw [outcomes, outcomes, List.map_append, List.map_append, alike.isAccepted_outcome,
      ih (alike.act first)]

/-! ### One queue -/

theorem settings_after (queue : Queue α) (acts : List (Act α)) :
    (queue.after acts).capacity = queue.capacity ∧ (queue.after acts).policy = queue.policy := by
  induction acts generalizing queue with
  | nil => exact ⟨rfl, rfl⟩
  | cons first rest ih =>
    obtain ⟨capacity, policy⟩ := ih (queue.act first).1
    cases first with
    | offer item =>
      obtain ⟨same, same'⟩ := queue.settings_enqueue item
      exact ⟨capacity.trans same, policy.trans same'⟩
    | take most => exact ⟨capacity, policy⟩

theorem dropped_after (queue : Queue α) (acts : List (Act α)) :
    (queue.after acts).dropped =
      queue.dropped + (queue.outcomes acts).countP fun outcome => !outcome.isAccepted := by
  induction acts generalizing queue with
  | nil => rfl
  | cons first rest ih =>
    rw [outcomes, List.countP_append]
    refine (ih (queue.act first).1).trans ?_
    cases first with
    | offer item =>
      rw [outcome, List.countP_singleton, isAccepted_enqueue]
      simp only [act, dropped_enqueue]
      by_cases room : queue.items.length < queue.capacity
      · simp [room]
      · simp [room]
        omega
    | take most => simp [act, outcome]

theorem size_ofCapacity_after (capacity : Nat) (policy : Overflow) (acts : List (Act α)) :
    ((ofCapacity capacity policy).after acts).size = heldAfter (max capacity 1) acts := by
  induction acts using List.reverseRecOn with
  | nil => rfl
  | append_singleton acts last ih =>
    have room : ((ofCapacity capacity policy).after acts).capacity = max capacity 1 :=
      (settings_after ..).1
    rw [after_concat, heldAfter, List.foldl_append, ← heldAfter, ← ih]
    cases last with
    | offer item =>
      refine (length_items_enqueue _ item).trans ?_
      rw [room]
      rfl
    | take most => exact List.length_drop

theorem suffix_after {queue : Queue α} (policy : queue.policy = .dropOldest)
    (acts : List (Act α)) :
    (queue.after acts).items <:+ queue.items ++ acts.flatMap Act.items := by
  -- The induction is on the last act, for it is at the end that an offer adds to the history.
  induction acts using List.reverseRecOn with
  | nil => simp [after]
  | append_singleton acts last ih =>
    rw [after_concat, List.flatMap_append, List.flatMap_singleton, ← List.append_assoc]
    cases last with
    | offer item =>
      have kept := suffix_enqueue ((queue.settings_after acts).2.trans policy) item
      obtain ⟨front, split⟩ := ih
      exact kept.trans ⟨front, by rw [← List.append_assoc, split]; rfl⟩
    | take most =>
      rw [Act.items, List.append_nil]
      exact (List.drop_suffix _ _).trans ih

/-! ### The log -/

/-- A queue whose log counts what is lost. -/
structure Tallied (queue : Queue α) : Prop where
  interval : queue.overflowLog.interval = 100
  count : queue.overflowLog.count overflowKey = queue.dropped

theorem Tallied.ofCapacity (capacity : Nat) (policy : Overflow) :
    Tallied (ofCapacity capacity policy : Queue α) := ⟨rfl, rfl⟩

theorem Tallied.journal_enqueue {queue : Queue α} (tallied : Tallied queue) (item : α) :
    (queue.enqueue item).2.2 =
      if queue.items.length = queue.capacity ∧ Sampler.Picks 100 (queue.dropped + 1) then
        [overflowLine queue.capacity queue.policy (queue.dropped + 1)] else [] := by
  by_cases room : queue.items.length < queue.capacity
  · rw [(journal_enqueue_of_room room item).1, if_neg (by omega)]
  · have full : queue.items.length = queue.capacity :=
      Nat.le_antisymm queue.bounded (Nat.le_of_not_lt room)
    rw [(journal_enqueue_of_full room item).1, Sampler.sampled_observe, tallied.interval,
      tallied.count]
    simp only [full, true_and, decide_eq_true_eq]

theorem Tallied.act {queue : Queue α} (tallied : Tallied queue) (act : Act α) :
    Tallied (queue.act act).1 := by
  cases act with
  | take most => exact ⟨tallied.interval, tallied.count⟩
  | offer item =>
    have dropped := queue.dropped_enqueue item
    by_cases room : queue.items.length < queue.capacity
    · have same := (journal_enqueue_of_room room item).2
      rw [if_pos room] at dropped
      exact ⟨(congrArg Sampler.interval same).trans tallied.interval, by
        rw [Queue.act, same, dropped, tallied.count]⟩
    · have next := (journal_enqueue_of_full room item).2
      rw [if_neg room] at dropped
      exact ⟨(congrArg Sampler.interval next).trans tallied.interval, by
        rw [Queue.act, next, dropped, Sampler.count_observe, tallied.count]⟩

theorem Tallied.after {queue : Queue α} (tallied : Tallied queue) (acts : List (Act α)) :
    Tallied (queue.after acts) := by
  induction acts generalizing queue with
  | nil => exact tallied
  | cons first rest ih => exact ih (tallied.act first)

/-- The lines on the first so many losses. -/
def overflowLines (capacity : Nat) (policy : Overflow) (losses : Nat) : Journal :=
  (((List.range losses).map (· + 1)).filter fun number => Sampler.Picks 100 number).map
    (overflowLine capacity policy)

theorem overflowLines_succ (capacity : Nat) (policy : Overflow) (losses : Nat) :
    overflowLines capacity policy (losses + 1) =
      overflowLines capacity policy losses ++
        if Sampler.Picks 100 (losses + 1) then [overflowLine capacity policy (losses + 1)]
        else [] := by
  unfold overflowLines
  rw [List.range_succ, List.map_append, List.filter_append, List.map_append, List.map_singleton]
  by_cases logs : Sampler.Picks 100 (losses + 1)
  · simp [logs]
  · simp [logs]

theorem journal_ofCapacity (capacity : Nat) (policy : Overflow) (acts : List (Act α)) :
    (ofCapacity capacity policy).journal acts =
      overflowLines (max capacity 1) policy ((ofCapacity capacity policy).after acts).dropped := by
  induction acts using List.reverseRecOn with
  | nil => rfl
  | append_singleton acts last ih =>
    have tallied := (Tallied.ofCapacity (α := α) capacity policy).after acts
    have room : ((ofCapacity capacity policy).after acts).capacity = max capacity 1 :=
      (settings_after ..).1
    have same : ((ofCapacity capacity policy).after acts).policy = policy := (settings_after ..).2
    rw [journal_concat, after_concat, ih]
    generalize (ofCapacity capacity policy).after acts = queue at tallied room same ⊢
    cases last with
    | take most => exact List.append_nil _
    | offer item =>
      simp only [act, tallied.journal_enqueue, dropped_enqueue, room, same]
      by_cases free : queue.items.length < max capacity 1
      · rw [if_pos free, if_neg (by omega), List.append_nil]
      · have bounded := queue.bounded
        rw [if_neg free, overflowLines_succ]
        simp only [show queue.items.length = max capacity 1 by omega, true_and]

/-! ### The law -/

/-- A queue of some capacity and policy after a sequence of acts. -/
def reached (capacity : Nat) (policy : Overflow) (acts : List (Act α)) : Queue α :=
  (ofCapacity capacity policy).after acts

/-- How two queues of one capacity, the one of which turns items away and the other gives up its
head, go through the same acts. -/
structure Lockstep (capacity : Nat) (acts : List (Act α)) : Prop where
  size : (reached capacity .dropNewest acts).size = (reached capacity .dropOldest acts).size
  /-- An item more for each offer as long as there is a free place, and as many less as are taken. -/
  held : ∀ policy, (reached capacity policy acts).size = heldAfter (max capacity 1) acts
  bounded : ∀ policy, (reached capacity policy acts).size ≤ max capacity 1
  dropped : (reached capacity .dropNewest acts).dropped =
    (reached capacity .dropOldest acts).dropped
  /-- What is counted are the items that find no free place. -/
  counted : ∀ policy, (reached capacity policy acts).dropped =
    ((ofCapacity capacity policy).outcomes acts).countP fun outcome => !outcome.isAccepted
  accepted : ((ofCapacity capacity .dropNewest).outcomes acts).map Outcome.isAccepted =
    ((ofCapacity capacity .dropOldest).outcomes acts).map Outcome.isAccepted
  /-- What finds a free place waits behind what has come before. -/
  stored : ∀ policy item, (reached capacity policy acts).size < max capacity 1 →
    ((reached capacity policy acts).enqueue item).1 = .accepted ∧
      ((reached capacity policy acts).enqueue item).2.1.items =
        (reached capacity policy acts).items ++ [item]
  refused : ∀ item, (reached capacity .dropNewest acts).size = max capacity 1 →
    ((reached capacity .dropNewest acts).enqueue item).1 = .dropped ∧
      ((reached capacity .dropNewest acts).enqueue item).2.1.items =
        (reached capacity .dropNewest acts).items
  /-- At a full queue that gives up its head no item is simply accepted. -/
  evicts : ∀ item, (reached capacity .dropOldest acts).size = max capacity 1 →
    ∃ head rest, (reached capacity .dropOldest acts).items = head :: rest ∧
      ((reached capacity .dropOldest acts).enqueue item).1 = .evicted head ∧
      ((reached capacity .dropOldest acts).enqueue item).2.1.items = rest ++ [item]
  /-- A batch is cut off at the head. -/
  batch : ∀ policy most, ((reached capacity policy acts).take most).1 ++
      ((reached capacity policy acts).take most).2.items = (reached capacity policy acts).items ∧
    ((reached capacity policy acts).take most).1.length =
      min most (heldAfter (max capacity 1) acts)
  /-- The one that gives up its head holds what was offered last, as many items as it holds. -/
  latest : (reached capacity .dropOldest acts).items =
    (acts.flatMap Act.items).rtake (heldAfter (max capacity 1) acts)
  /-- A loss is logged when it happens, by its number and with it. -/
  logged : ∀ policy item, ((reached capacity policy acts).enqueue item).2.2 =
    if (reached capacity policy acts).size = max capacity 1 ∧
        Sampler.Picks 100 ((reached capacity policy acts).dropped + 1) then
      [overflowLine (max capacity 1) policy ((reached capacity policy acts).dropped + 1)] else []
  /-- So these are the lines that there are. -/
  journal : ∀ policy, (ofCapacity capacity policy).journal acts =
    overflowLines (max capacity 1) policy (reached capacity policy acts).dropped

section Reached

variable {capacity : Nat} {policy : Overflow} {acts : List (Act α)}

theorem capacity_reached : (reached capacity policy acts).capacity = max capacity 1 :=
  (settings_after ..).1

theorem policy_reached : (reached capacity policy acts).policy = policy := (settings_after ..).2

theorem enqueue_reached_of_room (room : (reached capacity policy acts).size < max capacity 1)
    (item : α) :
    ((reached capacity policy acts).enqueue item).1 = .accepted ∧
      ((reached capacity policy acts).enqueue item).2.1.items =
        (reached capacity policy acts).items ++ [item] := by
  rcases enqueue_cases (reached capacity policy acts) item with
    ⟨-, outcome, items, -⟩ | ⟨full, -⟩ | ⟨full, -⟩
  · exact ⟨outcome, items⟩
  · rw [capacity_reached] at full
    exact absurd full room.ne
  · rw [capacity_reached] at full
    exact absurd full room.ne

theorem enqueue_newest_of_full (full : (reached capacity .dropNewest acts).size = max capacity 1)
    (item : α) :
    ((reached capacity .dropNewest acts).enqueue item).1 = .dropped ∧
      ((reached capacity .dropNewest acts).enqueue item).2.1.items =
        (reached capacity .dropNewest acts).items := by
  rcases enqueue_cases (reached capacity .dropNewest acts) item with
    ⟨free, -⟩ | ⟨-, -, outcome, items, -⟩ | ⟨-, oldest, -⟩
  · rw [capacity_reached] at free
    exact absurd full free.ne
  · exact ⟨outcome, items⟩
  · rw [policy_reached] at oldest
    contradiction

theorem enqueue_oldest_of_full (full : (reached capacity .dropOldest acts).size = max capacity 1)
    (item : α) :
    ∃ head rest, (reached capacity .dropOldest acts).items = head :: rest ∧
      ((reached capacity .dropOldest acts).enqueue item).1 = .evicted head ∧
      ((reached capacity .dropOldest acts).enqueue item).2.1.items = rest ++ [item] := by
  rcases enqueue_cases (reached capacity .dropOldest acts) item with
    ⟨free, -⟩ | ⟨-, newest, -⟩ | ⟨-, -, head, rest, before, outcome, items, -⟩
  · rw [capacity_reached] at free
    exact absurd full free.ne
  · rw [policy_reached] at newest
    contradiction
  · exact ⟨head, rest, before, outcome, items⟩

theorem items_reached_oldest (capacity : Nat) (acts : List (Act α)) :
    (reached capacity .dropOldest acts).items =
      (acts.flatMap Act.items).rtake (heldAfter (max capacity 1) acts) := by
  have suffix : (reached capacity .dropOldest acts).items <:+ acts.flatMap Act.items :=
    suffix_after rfl acts
  have size : (reached capacity .dropOldest acts).items.length =
      heldAfter (max capacity 1) acts := size_ofCapacity_after ..
  rw [List.rtake, ← size]
  exact List.suffix_iff_eq_drop.mp suffix

end Reached

theorem policies_lockstep (capacity : Nat) (acts : List (Act α)) : Lockstep capacity acts := by
  have alike : Alike (α := α) (ofCapacity capacity .dropNewest)
      (ofCapacity capacity .dropOldest) := ⟨rfl, rfl, rfl⟩
  have held (policy : Overflow) : (reached capacity policy acts).size =
      heldAfter (max capacity 1) acts := size_ofCapacity_after ..
  refine ⟨(alike.after acts).size, held, ?_, (alike.after acts).dropped, ?_,
    alike.isAccepted_outcomes acts, fun policy item room => enqueue_reached_of_room room item,
    fun item full => enqueue_newest_of_full full item,
    fun item full => enqueue_oldest_of_full full item, ?_, items_reached_oldest capacity acts, ?_,
    fun policy => journal_ofCapacity capacity policy acts⟩
  · intro policy
    exact (reached capacity policy acts).bounded.trans capacity_reached.le
  · intro policy
    exact (dropped_after ..).trans (Nat.zero_add _)
  · intro policy most
    refine ⟨take_append_items .., ?_⟩
    rw [take, List.length_take, ← held policy, size]
  · intro policy item
    have tallied := (Tallied.ofCapacity (α := α) capacity policy).after acts
    refine (tallied.journal_enqueue item).trans ?_
    rw [← reached, capacity_reached, policy_reached, size]

/-- Three offers at two places, one item taken, and two offers more. -/
def crowding : List (Act String) :=
  [.offer "a", .offer "b", .offer "c", .take 1, .offer "d", .offer "e"]

theorem policies_lockstep_crowding :
    (reached 2 .dropNewest crowding).items = ["b", "d"] ∧
      (reached 2 .dropOldest crowding).items = ["d", "e"] ∧
      (reached 2 .dropNewest crowding).dropped = 2 ∧
      (reached 2 .dropOldest crowding).dropped = 2 ∧
      (ofCapacity 2 .dropOldest).journal crowding = [overflowLine 2 .dropOldest 1] ∧
      ∃ head rest, ((reached 2 .dropOldest crowding).enqueue "f").1 = .evicted head ∧
        ((reached 2 .dropOldest crowding).enqueue "f").2.1.items = rest ++ ["f"] := by
  have law := policies_lockstep 2 crowding
  have losses : (reached 2 .dropNewest crowding).dropped = 2 := by decide
  have journal := law.journal .dropOldest
  rw [← law.dropped, losses] at journal
  obtain ⟨head, rest, -, outcome, items⟩ := law.evicts "f" (by rw [← law.size]; decide)
  exact ⟨by decide, law.latest, losses, law.dropped ▸ losses, journal, head, rest, outcome, items⟩

end FeedMonitor.Delivery.Queue
