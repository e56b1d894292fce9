import FeedMonitor.Proofs.Delivery.Run

/-!
The timer of a delivery service.

It is set as long as records wait and no longer. While it is set no other one is, and records that
arrive leave it as it is, so that none waits longer than those before it make it wait.
-/

namespace FeedMonitor.Delivery

theorem Queue.items_enqueue_ne_nil {α : Type} (queue : Queue α) (item : α) :
    (queue.enqueue item).2.1.items ≠ [] := by
  rcases queue.enqueue_cases item with ⟨-, -, items, -⟩ | ⟨full, -, -, items, -⟩ |
    ⟨-, -, head, rest, -, -, items, -⟩
  · rw [items]
    simp
  · rw [items]
    intro empty
    have positive := queue.positive
    rw [empty, List.length_nil] at full
    omega
  · rw [items]
    simp

namespace Service

theorem timer_enqueue (service : Service) (now : Span) (record : Record) :
    (service.enqueue now record).2.1.timer = service.timer.or (some (service.setTimer now)) := by
  simp only [enqueue]
  cases service.timer <;> rfl

theorem timer_fire (service : Service) (now : Span) :
    (service.fire now).2.1.timer =
      if (service.fire now).2.1.queue.items = [] then none else some (service.setTimer now) := by
  by_cases empty : service.queue.items = []
  · rw [fire_of_empty empty]
    simp [empty]
  · rw [fire_of_waiting empty]
    rfl

/-- A timer is set if and only if records wait. -/
def Attended (service : Service) : Prop := service.timer.isSome ↔ service.queue.items ≠ []

namespace Attended

variable {service : Service}

theorem ofQueue (capacity : Nat) (policy : Overflow) (batchSize : Nat) (interval : Span) :
    (Service.ofQueue (.ofCapacity capacity policy) batchSize interval).Attended := by
  simp [Attended, Service.ofQueue, Queue.ofCapacity]

theorem enqueue (service : Service) (now : Span) (record : Record) :
    (service.enqueue now record).2.1.Attended := by
  have waiting := service.queue.items_enqueue_ne_nil record
  have queue := (service.queue_enqueue now record).2.1
  rw [Attended, timer_enqueue, queue]
  simp [waiting]

theorem flush (service : Service) : service.flush.2.Attended := by
  have timer : service.flush.2.timer = none := rfl
  rw [Attended, timer, items_flush]
  simp

theorem fire (service : Service) (now : Span) : (service.fire now).2.1.Attended := by
  rw [Attended, timer_fire]
  split
  · simp [*]
  · simp [*]

end Attended

end Service

namespace System

variable {system next : System} {event : Event} {effects : List Effect}

theorem Step.attended (step : Step system event next effects)
    (attended : system.service.Attended) : next.service.Attended := by
  cases step with
  | @enqueue now record inbox outcome service journal running next offered =>
    have after := Service.Attended.enqueue system.service now record
    rwa [offered] at after
  | flush now running next flushed =>
    have after := Service.Attended.flush system.service
    rwa [flushed] at after
  | idle now running set fired | fire now running set fired =>
    have after := Service.Attended.fire system.service now
    rwa [fired] at after
  | _ => exact attended

/-- A timer is set where there was none, or when the one before it has just gone off. -/
theorem Step.timer (step : Step system event next effects) :
    next.service.timer = system.service.timer ∨ next.service.timer = none ∨
      ∃ now, next.service.timer = some (system.service.setTimer now) ∧
        (event = .fire now ∨ event = .handle now ∧ system.service.timer = none) := by
  cases step with
  | @enqueue now record inbox outcome service journal running next offered =>
    have after := system.service.timer_enqueue now record
    rw [offered] at after
    cases before : system.service.timer with
    | some deadline =>
      rw [before, Option.some_or] at after
      exact .inl after
    | none =>
      rw [before, Option.none_or] at after
      exact .inr (.inr ⟨now, after, .inr ⟨rfl, rfl⟩⟩)
  | flush now running next flushed =>
    refine .inr (.inl ?_)
    rw [← (Prod.mk.inj flushed).2]
    rfl
  | idle now running set fired | fire now running set fired =>
    have after := system.service.timer_fire now
    rw [fired] at after
    split at after
    · exact .inr (.inl after)
    · exact .inr (.inr ⟨now, after, .inl rfl⟩)
  | _ => exact .inl rfl

theorem Step.timer_of_enqueue {now deadline : Span} {record : Record} {inbox : List Command}
    (step : Step system (.handle now) next effects)
    (offered : system.inbox = .enqueue record :: inbox)
    (set : system.service.timer = some deadline) : next.service.timer = some deadline := by
  cases step with
  | @enqueue _ other _ _ service _ running waiting result =>
    have after := system.service.timer_enqueue now other
    rwa [result, set, Option.some_or] at after
  | flush _ running waiting | stats _ running waiting | shutdown _ running waiting =>
    rw [offered] at waiting
    cases waiting

theorem Step.fired {now : Span} (step : Step system (.fire now) next effects)
    (attended : system.service.Attended) :
    ∃ batch, batch ≠ [] ∧ .formed system.nextTask batch ∈ effects ∧
      system.service.queue.items = batch ++ next.service.queue.items := by
  cases step with
  | idle _ running set fired =>
    have waiting := attended.mp set
    obtain ⟨empty, -⟩ := Service.fire_eq_none fired
    contradiction
  | @fire _ batch service journal running set fired =>
    obtain ⟨waiting, taken, left, -⟩ := Service.fire_eq_some fired
    refine ⟨batch, ?_, List.mem_cons_self, ?_⟩
    · intro none
      have same := system.service.isEmpty_take
      rw [← taken, none] at same
      exact waiting (List.isEmpty_iff.mp same.symm)
    · change _ = batch ++ service.queue.items
      rw [taken, left, List.take_append_drop]

end System

/-- How the timer of a system and its queue agree. -/
structure TimerAgrees (interval : Span) (system : System) : Prop where
  set_iff : system.service.timer.isSome ↔ system.service.queue.items ≠ []
  /-- A record that arrives leaves the deadline as it is. -/
  kept : ∀ now record inbox deadline next effects, system.inbox = .enqueue record :: inbox →
    system.step? (.handle now) = some (next, effects) →
      system.service.timer = some deadline → next.service.timer = some deadline
  /-- There are never two: one is set only where there is none or where it has gone off. -/
  single : ∀ event next effects, system.step? event = some (next, effects) →
    next.service.timer = system.service.timer ∨ next.service.timer = none ∨
      ∃ now, next.service.timer = some ⟨now.nanos + interval.nanos⟩ ∧
        (event = .fire now ∨ event = .handle now ∧ system.service.timer = none)
  /-- As long as records wait in a running service, the timer can go off. -/
  pending : ∀ now, system.phase = .running → system.service.queue.items ≠ [] →
    (system.step? (.fire now)).isSome
  /-- When it goes off, records leave the head of the queue as a batch. -/
  fired : ∀ now next effects, system.step? (.fire now) = some (next, effects) →
    ∃ batch, batch ≠ [] ∧ .formed system.nextTask batch ∈ effects ∧
      system.service.queue.items = batch ++ next.service.queue.items

theorem timer_agrees {capacity batchSize : Nat} {policy : Overflow} {interval : Span}
    {events : List Event} {system : System} {effects : List Effect}
    (run : (System.start capacity policy batchSize interval).run? events =
      some (system, effects)) : TimerAgrees interval system := by
  have attended : system.service.Attended :=
    System.run?_induction (fun _ system _ => system.service.Attended)
      (Service.Attended.ofQueue capacity policy batchSize interval)
      (fun _ _ _ _ _ _ before _ step => step.attended before) run
  have settings := System.run?_settings run
  have same : system.service.interval = interval := congrArg (·.2.2.2) settings
  refine ⟨attended, ?_, ?_, ?_, ?_⟩
  · intro now record inbox deadline next effects offered stepped set
    exact (System.step_of_step? stepped).timer_of_enqueue offered set
  · intro event next effects stepped
    have moved := (System.step_of_step? stepped).timer
    simpa only [Service.setTimer, same] using moved
  · intro now running waiting
    have set := attended.mpr waiting
    simp [System.step?, running, set]
  · intro now next effects stepped
    exact (System.step_of_step? stepped).fired attended

/-- Two records, of which the first sets the timer for the fifth nanosecond. -/
def refilled : List Event :=
  [.send (.enqueue (.ofMessage .info "first" ⟨0, 0⟩)),
    .send (.enqueue (.ofMessage .warn "second" ⟨1, 0⟩)), .handle ⟨0⟩, .handle ⟨3⟩, .fire ⟨5⟩]

theorem timer_agrees_refilled :
    ∃ system effects,
      (System.start 2 .dropOldest 1 ⟨5⟩).run? refilled = some (system, effects) ∧
        system.service.timer = some ⟨10⟩ ∧ TimerAgrees ⟨5⟩ system := by
  have ran : ((System.start 2 .dropOldest 1 ⟨5⟩).run? refilled).map
      (fun result => result.1.service.timer) = some (some ⟨10⟩) := by
    decide +kernel
  obtain ⟨⟨system, effects⟩, run, set⟩ := Option.map_eq_some_iff.mp ran
  exact ⟨system, effects, run, set, timer_agrees run⟩

end FeedMonitor.Delivery
