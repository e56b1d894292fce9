import FeedMonitor.Proofs.Delivery.Timer
import FeedMonitor.Proofs.Delivery.Waiting

/-!
Two ways to empty a queue.

The timer takes one batch whenever it goes off, and a flush takes all batches at once. As long as no
record arrives both form the same batches: the queue cut into parts from its head on.
-/

namespace FeedMonitor.Delivery

/-! ### Parts of a list -/

section Chunks

variable {α : Type}

/-- The parts of a list that begin at the multiples of `size`, each with as many items as are left
there, but no more than `size`. -/
def chunks (size : Nat) (items : List α) : List (List α) :=
  (List.range ((items.length + size - 1) / size)).map fun place =>
    (items.drop (place * size)).take size

theorem length_chunks (size : Nat) (items : List α) :
    (chunks size items).length = (items.length + size - 1) / size := by
  rw [chunks, List.length_map, List.length_range]

theorem chunks_nil {size : Nat} (sized : 0 < size) : chunks size ([] : List α) = [] := by
  have none : (0 + size - 1) / size = 0 := Nat.div_eq_of_lt (by omega)
  rw [chunks, List.length_nil, none]
  rfl

theorem chunks_of_ne_nil {size : Nat} (sized : 0 < size) {items : List α} (some : items ≠ []) :
    chunks size items = items.take size :: chunks size (items.drop size) := by
  have positive := List.length_pos_iff.mpr some
  have count : (items.length + size - 1) / size =
      ((items.drop size).length + size - 1) / size + 1 := by
    rw [List.length_drop, ← Nat.add_div_right _ sized]
    by_cases few : items.length ≤ size
    · rw [Nat.div_eq_of_lt_le (by omega : 1 * size ≤ _) (by omega),
        Nat.div_eq_of_lt_le (by omega : 1 * size ≤ _) (by omega)]
    · congr 1
      omega
  rw [chunks, count, List.range_succ_eq_map, List.map_cons, List.map_map, chunks]
  congr 1
  · rw [Nat.zero_mul, List.drop_zero]
  · refine List.map_congr_left fun place _ => ?_
    rw [Function.comp_apply, List.drop_drop, Nat.succ_mul, Nat.add_comm]

theorem batches_eq_chunks {size : Nat} (sized : 0 < size) (items : List α) :
    batches size sized items = chunks size items := by
  fun_induction batches size sized items with
  | case1 => exact (chunks_nil sized).symm
  | case2 head rest ih => rw [chunks_of_ne_nil sized (List.cons_ne_nil head rest), ih]

theorem flatten_chunks {size : Nat} (sized : 0 < size) (items : List α) :
    (chunks size items).flatten = items := by
  rw [← batches_eq_chunks sized, flatten_batches]

theorem chunks_eq_nil_iff {size : Nat} (sized : 0 < size) {items : List α} :
    chunks size items = [] ↔ items = [] := by
  constructor
  · intro none
    rw [← flatten_chunks sized items, none, List.flatten_nil]
  · rintro rfl
    exact chunks_nil sized

/-- All parts are full but for the last one, which has one item at least. -/
theorem length_of_getElem?_chunks {size : Nat} (sized : 0 < size) {items chunk : List α}
    {place : Nat} (found : (chunks size items)[place]? = some chunk) :
    chunk = (items.drop (place * size)).take size ∧
      (place + 1 < (chunks size items).length → chunk.length = size) ∧
      1 ≤ chunk.length ∧ chunk.length ≤ size := by
  have begins (other : Nat) : other < (chunks size items).length ↔ other * size < items.length := by
    rw [length_chunks, Nat.lt_div_iff_mul_lt sized]
    omega
  have here : place * size < items.length :=
    (begins place).mp (List.getElem?_eq_some_iff.mp found).1
  obtain ⟨_, ranged, rfl⟩ := Option.map_eq_some_iff.mp (List.getElem?_map.symm.trans found)
  obtain ⟨_, rfl⟩ := List.getElem?_eq_some_iff.mp ranged
  rw [List.getElem_range, begins, Nat.succ_mul, List.length_take, List.length_drop]
  exact ⟨rfl, by omega, by omega, by omega⟩

end Chunks

/-! ### Without further records -/

/-- Whether a command leaves the queue as it is. -/
def Command.IsCalm : Command → Prop
  | .stats _ | .shutdown => True
  | .enqueue _ | .flush _ => False

namespace System

variable {system next : System} {event : Event} {effects : List Effect}

/-- Whether no record is queued and nothing is flushed by some events. -/
def Undisturbed (system : System) (events : List Event) : Prop :=
  ∀ before now after found effects command inbox, events = before ++ .handle now :: after →
    system.run? before = some (found, effects) → found.inbox = command :: inbox → command.IsCalm

theorem Undisturbed.of_append {events more : List Event}
    (undisturbed : system.Undisturbed (events ++ more)) : system.Undisturbed events := by
  rintro before now after found effects command inbox rfl
  exact undisturbed before now (after ++ more) found effects command inbox (by simp)

/-- The batches that wait in the queue. -/
def chunks (system : System) : List (List Record) :=
  Delivery.chunks system.service.batchSize system.service.queue.items

/-- Only firings, flushes and new records make a difference to the service and form batches. -/
theorem Step.calm (step : Step system event next effects) (other : event.isFiring = false)
    (calm : ∀ now command inbox, event = .handle now → system.inbox = command :: inbox →
      command.IsCalm) :
    next.service = system.service ∧ effects.flatMap Effect.batches = [] := by
  cases step with
  | enqueue now running waiting offered => exact (calm now _ _ rfl waiting).elim
  | flush now running waiting flushed => exact (calm now _ _ rfl waiting).elim
  | idle | fire => contradiction
  | shutdown | leave => exact ⟨rfl, Effect.blind_batches.flatMap (system.notes_drain _)⟩
  | stop => exact ⟨rfl, Effect.blind_batches.flatMap (notes_lost _)⟩
  | finish => exact ⟨rfl, Effect.blind_batches.flatMap (notes_finish _ _)⟩
  | _ => exact ⟨rfl, rfl⟩

/-- A firing forms the first of the batches that wait. -/
theorem Step.chunks (step : Step system event next effects) (firing : event.isFiring)
    (attended : system.service.Attended) :
    system.chunks = effects.flatMap Effect.batches ++ next.chunks ∧
      (effects.flatMap Effect.batches).length = 1 ∧ next.phase = .running := by
  cases step with
  | idle now running set fired =>
    obtain ⟨empty, -⟩ := Service.fire_eq_none fired
    exact absurd empty (attended.mp set)
  | @fire now batch service journal running set fired =>
    obtain ⟨waiting, taken, left, -⟩ := Service.fire_eq_some fired
    have size : service.batchSize = system.service.batchSize := by
      have settings := system.service.settings_fire now
      rw [fired] at settings
      exact congrArg (·.2.2.1) settings
    rw [List.flatMap_cons, Effect.blind_batches.logs, List.append_nil]
    refine ⟨?_, rfl, running⟩
    change system.chunks = batch :: Delivery.chunks service.batchSize service.queue.items
    rw [System.chunks, chunks_of_ne_nil system.service.sized waiting, size, left, taken]
  | _ => contradiction

/-- Firings form the batches that wait, one after the other. -/
theorem formed_of_firings (attended : system.service.Attended) {events : List Event}
    (run : system.run? events = some (next, effects)) (undisturbed : system.Undisturbed events) :
    next.service.Attended ∧ system.chunks = effects.flatMap Effect.batches ++ next.chunks ∧
      (effects.flatMap Effect.batches).length = firings events := by
  refine runs.induction (fun events next effects => system.Undisturbed events →
    next.service.Attended ∧ system.chunks = effects.flatMap Effect.batches ++ next.chunks ∧
      (effects.flatMap Effect.batches).length = firings events)
    (fun _ => ⟨attended, rfl, rfl⟩) ?_ run undisturbed
  intro events middle effects event next more before ran stepped undisturbed
  obtain ⟨attended, split, count⟩ := before undisturbed.of_append
  have step := step_of_step? stepped
  rw [firings_append, List.flatMap_append, List.length_append, List.append_assoc, split, count]
  refine ⟨step.attended attended, ?_⟩
  by_cases firing : event.isFiring
  · obtain ⟨formed, once, -⟩ := step.chunks firing attended
    rw [← formed, once]
    simp [firings, firing]
  · have calm (now : Span) (command : Command) (inbox : List Command)
        (handled : event = .handle now) : middle.inbox = command :: inbox → command.IsCalm :=
      undisturbed events now [] middle effects command inbox (by rw [handled]) ran
    obtain ⟨service, none⟩ := step.calm (Bool.eq_false_iff.mpr firing) calm
    rw [none, System.chunks, System.chunks, service]
    simp [firings, firing]

/-- The timer can go off as many times as batches wait. -/
theorem exists_firings (running : system.phase = .running) (attended : system.service.Attended)
    {times : List Span} (few : times.length ≤ system.chunks.length) :
    ∃ next effects, system.run? (times.map .fire) = some (next, effects) := by
  induction times generalizing system with
  | nil => exact ⟨system, [], rfl⟩
  | cons now rest ih =>
    rw [List.length_cons] at few
    have waiting : system.service.queue.items ≠ [] := by
      intro empty
      rw [System.chunks, (chunks_eq_nil_iff system.service.sized).mpr empty] at few
      contradiction
    have stepped : system.step? (.fire now) = some (system.fire now) := by
      simp [step?, running, attended.mpr waiting]
    have step := step_of_step? stepped
    obtain ⟨formed, once, still⟩ := step.chunks rfl attended
    have lengths := congrArg List.length formed
    rw [List.length_append, once] at lengths
    obtain ⟨last, more, ran⟩ := ih still (step.attended attended) (by omega)
    exact ⟨last, _, runs.cons_iff.mpr ⟨_, _, more, stepped, ran, rfl⟩⟩

theorem firings_map_fire (times : List Span) : firings (times.map .fire) = times.length := by
  rw [firings, List.countP_map]
  exact List.countP_eq_length.mpr fun _ _ => rfl

theorem undisturbed_firings (system : System) (times : List Span) :
    system.Undisturbed (times.map .fire) := by
  intro before now after found effects command inbox split
  have member : Event.handle now ∈ times.map Event.fire := by simp [split]
  simp at member

end System

/-- How the two ways to empty a queue agree. -/
structure FlushesAgree (system : System) : Prop where
  /-- The batches put together are the queue, -/
  whole : system.chunks.flatten = system.service.queue.items
  /-- there are as many as the batch size goes into the queue, rounded up, -/
  count : system.chunks.length =
    (system.service.queue.items.length + system.service.batchSize - 1) / system.service.batchSize
  /-- and all are full but for the last one, which is not empty. -/
  consecutive : ∀ place batch, system.chunks[place]? = some batch →
    batch = (system.service.queue.items.drop (place * system.service.batchSize)).take
        system.service.batchSize ∧
      (place + 1 < system.chunks.length → batch.length = system.service.batchSize) ∧
      1 ≤ batch.length ∧ batch.length ≤ system.service.batchSize
  /-- Firings form them in order, and the timer stays set for as long as any are left. -/
  fired : ∀ events next effects, system.Undisturbed events →
    system.run? events = some (next, effects) →
      firings events ≤ system.chunks.length ∧
      effects.flatMap Effect.batches = system.chunks.take (firings events) ∧
      next.service.queue.items = (system.chunks.drop (firings events)).flatten ∧
      (next.service.timer.isSome ↔ firings events < system.chunks.length)
  /-- As many firings as there are batches can follow each other; they leave an empty queue and no
  timer. -/
  drained : ∀ times : List Span, times.length = system.chunks.length →
    ∃ next effects, system.run? (times.map .fire) = some (next, effects) ∧
      effects.flatMap Effect.batches = system.chunks ∧ next.service.queue.items = [] ∧
      next.service.timer = none
  /-- A flush forms the same batches at once. -/
  flushed : ∀ now request inbox, ∃ next effects,
    { system with inbox := .flush request :: inbox }.step? (.handle now) = some (next, effects) ∧
      effects.flatMap Effect.batches = system.chunks ∧ next.service.queue.items = [] ∧
      next.service.timer = none

theorem flushes_agree {system : System} (running : system.phase = .running)
    (attended : system.service.timer.isSome ↔ system.service.queue.items ≠ []) :
    FlushesAgree system := by
  have sized := system.service.sized
  have fired (events : List Event) (next : System) (effects : List Effect)
      (undisturbed : system.Undisturbed events)
      (run : system.run? events = some (next, effects)) :
      firings events ≤ system.chunks.length ∧
      effects.flatMap Effect.batches = system.chunks.take (firings events) ∧
      next.service.queue.items = (system.chunks.drop (firings events)).flatten ∧
      (next.service.timer.isSome ↔ firings events < system.chunks.length) := by
    obtain ⟨attended, split, count⟩ := System.formed_of_firings attended run undisturbed
    have left : next.chunks.flatten = next.service.queue.items :=
      flatten_chunks next.service.sized _
    have set : next.service.timer.isSome ↔ 0 < next.chunks.length :=
      attended.trans ((not_congr (chunks_eq_nil_iff next.service.sized)).symm.trans
        List.length_pos_iff.symm)
    rw [split, ← count, List.take_left, List.drop_left, left, set, List.length_append]
    exact ⟨by omega, rfl, rfl, by omega⟩
  refine ⟨flatten_chunks sized _, length_chunks _ _,
    fun place batch found => length_of_getElem?_chunks sized found, fired, ?_, ?_⟩
  · intro times length
    obtain ⟨next, effects, run⟩ := System.exists_firings running attended (Nat.le_of_eq length)
    have all : firings (times.map .fire) = system.chunks.length :=
      (System.firings_map_fire times).trans length
    obtain ⟨-, formed, left, set⟩ := fired _ next effects (system.undisturbed_firings times) run
    rw [all] at formed left set
    rw [List.take_length] at formed
    rw [List.drop_length] at left
    refine ⟨next, effects, run, formed, left, ?_⟩
    simpa using set
  · intro now request inbox
    have stepped : { system with inbox := .flush request :: inbox }.step? (.handle now) =
        some ({ system with inbox }.handle now (.flush request)) := by
      simp only [System.step?, running]
    have taken : system.service.flush.1 = system.chunks := batches_eq_chunks sized _
    refine ⟨_, _, stepped, ?_, system.service.items_flush, rfl⟩
    change (system.service.flush.1.map (.formed system.nextTask)).flatMap Effect.batches = _
    rw [← taken]
    simp [List.flatMap_map, Effect.batches]

/-- Three records and a timer that the first of them has set. -/
def waitingThree : List Event :=
  ["a", "b", "c"].map (fun text => .send (.enqueue (.ofMessage .info text ⟨0, 0⟩))) ++
    List.replicate 3 (.handle ⟨0⟩)

theorem flushes_agree_three :
    ∃ system effects,
      (System.start 4 .dropNewest 2 ⟨5⟩).run? waitingThree = some (system, effects) ∧
        system.phase = .running ∧
        (system.service.timer.isSome ↔ system.service.queue.items ≠ []) ∧
        system.chunks.map (·.map Record.message) = [["a", "b"], ["c"]] ∧ FlushesAgree system := by
  have ran : ((System.start 4 .dropNewest 2 ⟨5⟩).run? waitingThree).map (fun result =>
      (result.1.phase, result.1.chunks.map (·.map Record.message))) =
        some (.running, [["a", "b"], ["c"]]) := by
    decide +kernel
  obtain ⟨⟨system, effects⟩, run, seen⟩ := Option.map_eq_some_iff.mp ran
  obtain ⟨running, batches⟩ := Prod.mk.inj seen
  have attended : system.service.Attended :=
    System.run?_induction (fun _ system _ => system.service.Attended)
      (Service.Attended.ofQueue 4 .dropNewest 2 ⟨5⟩)
      (fun _ _ _ _ _ _ before _ step => step.attended before) run
  exact ⟨system, effects, run, running, attended, batches, flushes_agree running attended⟩

end FeedMonitor.Delivery
