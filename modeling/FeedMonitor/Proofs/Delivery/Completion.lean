import FeedMonitor.Proofs.Delivery.Conservation
import FeedMonitor.Proofs.Delivery.Progress

/-!
What a delivery system has done when it stops.

Every batch that was formed has been delivered once. Records that have not been delivered are those
that overflow has lost and those that still wait; the service says how many these are when it leaves
its loop, and it forms no batch after that.
-/

namespace FeedMonitor.Delivery

namespace Effect

/-- The batch that is formed and the task that is to deliver it. -/
def formations : Effect → List (Nat × List Record)
  | .formed task batch => [(task, batch)]
  | _ => []

/-- The batch whose delivery is done and the task that has done it. -/
def deliveries : Effect → List (Nat × List Record)
  | .delivered task batch => [(task, batch)]
  | _ => []

def warnings : Effect → List Journal.Entry
  | .log entry => if entry.severity = .warn then [entry] else []
  | _ => []

theorem blind_formations : Blind formations := ⟨fun _ => rfl, fun _ _ => rfl, fun _ => rfl⟩

end Effect

/-! ### Batches by tasks -/

theorem flatMap_formedFor (task : Nat) (effects : List Effect) :
    effects.flatMap (Effect.formedFor task) =
      ((effects.flatMap Effect.formations).filter fun pair => pair.1 == task).map Prod.snd := by
  rw [List.filter_flatMap, List.map_flatMap]
  congr 1
  funext effect
  cases effect with
  | formed other batch =>
    by_cases same : other = task <;> simp [Effect.formedFor, Effect.formations, same]
  | _ => rfl

theorem flatMap_deliveredBy_eq (task : Nat) (effects : List Effect) :
    effects.flatMap (Effect.deliveredBy task) =
      ((effects.flatMap Effect.deliveries).filter fun pair => pair.1 == task).map Prod.snd := by
  rw [List.filter_flatMap, List.map_flatMap]
  congr 1
  funext effect
  cases effect with
  | delivered other batch =>
    by_cases same : other = task <;> simp [Effect.deliveredBy, Effect.deliveries, same]
  | _ => rfl

theorem flatMap_batches (effects : List Effect) :
    effects.flatMap Effect.batches = (effects.flatMap Effect.formations).map Prod.snd := by
  rw [List.map_flatMap]
  congr 1
  funext effect
  cases effect <;> rfl

/-- Two lists with the same items for each number differ in their order at most. -/
theorem perm_of_filter {α : Type} {list other : List (Nat × α)}
    (same : ∀ number, (list.filter fun pair => pair.1 == number).map Prod.snd =
      (other.filter fun pair => pair.1 == number).map Prod.snd) : list.Perm other := by
  classical
  refine List.perm_iff_count.mpr fun ⟨number, item⟩ => ?_
  have count (items : List (Nat × α)) : items.count (number, item) =
      ((items.filter fun pair => pair.1 == number).map Prod.snd).count item := by
    induction items with
    | nil => rfl
    | cons first rest ih =>
      obtain ⟨first, content⟩ := first
      by_cases here : first = number
      · subst here
        simp [List.count_cons, ih]
      · simp [ih, here]
  rw [count list, count other, same]

/-! ### Warnings -/

/-- What is said of records that still wait when the loop is left. -/
def undelivered (queue : Queue Record) : List Journal.Entry :=
  if queue.items = [] then []
  else [Journal.telemetry .warn
    s!"Delivery service stopped with {queue.items.length} undelivered records"]

theorem Queue.severity_enqueue {α : Type} (queue : Queue α) (item : α) :
    ∀ entry ∈ (queue.enqueue item).2.2, entry.severity = .debug := by
  intro entry member
  by_cases room : queue.items.length < queue.capacity
  · rw [(journal_enqueue_of_room room item).1] at member
    contradiction
  · rw [(journal_enqueue_of_full room item).1] at member
    split at member
    · rw [List.mem_singleton.mp member]
      rfl
    · contradiction

theorem Service.severity_enqueue (service : Service) (now : Span) (record : Record) :
    ∀ entry ∈ (service.enqueue now record).2.2, entry.severity = .debug := by
  intro entry member
  simp only [Service.enqueue, List.mem_append] at member
  rcases member with overflow | evicted
  · exact service.queue.severity_enqueue record entry overflow
  · cases outcome : (service.queue.enqueue record).1 with
    | accepted => simp [outcome] at evicted
    | dropped => simp [outcome] at evicted
    | evicted head =>
      have line : entry = evictionLine head := by simpa [outcome] using evicted
      rw [line]
      rfl

theorem Service.severity_fire (service : Service) (now : Span) :
    ∀ entry ∈ (service.fire now).2.2, entry.severity = .debug := by
  intro entry member
  by_cases empty : service.queue.items = []
  · rw [fire_of_empty empty] at member
    contradiction
  · rw [fire_of_waiting empty] at member
    rw [List.mem_singleton.mp member]
    rfl

namespace System

theorem warnings_logs {journal : Journal} (quiet : ∀ entry ∈ journal, entry.severity = .debug) :
    (logs journal).flatMap Effect.warnings = [] := by
  rw [logs, List.flatMap_map]
  refine List.flatMap_eq_nil_iff.mpr fun entry member => ?_
  simp [Effect.warnings, quiet entry member]

theorem warnings_drain (system : System) (text : String) :
    (serviceLine text :: system.drain.2).flatMap Effect.warnings =
      undelivered system.service.queue := by
  have quiet : (serviceLine text).warnings = [] := rfl
  rw [List.flatMap_cons, quiet, List.nil_append, drain, undelivered]
  simp only [Queue.isEmpty, Queue.size, List.isEmpty_iff]
  split <;> rfl

theorem warnings_finish (system : System) (task : Task) :
    (system.finish task).2.flatMap Effect.warnings = [] := by
  unfold finish
  split <;> rfl

variable {system next : System} {event : Event} {effects : List Effect}

/-- The step by which the loop is left says what waits, and no other step warns of anything. -/
theorem Step.warnings (step : Step system event next effects) :
    effects.flatMap Effect.warnings =
      if system.phase = .running ∧ next.phase ≠ .running then undelivered system.service.queue
      else [] := by
  cases step with
  | @enqueue now record inbox outcome service journal running next offered =>
    have quiet := system.service.severity_enqueue now record
    rw [offered] at quiet
    simp [Effect.warnings, warnings_logs quiet, running]
  | flush now running next flushed =>
    simp [List.flatMap_map, Effect.warnings, addTask, running]
  | @idle now service journal running set fired =>
    have quiet := system.service.severity_fire now
    rw [fired] at quiet
    simp [warnings_logs quiet, running]
  | @fire now batch service journal running set fired =>
    have quiet := system.service.severity_fire now
    rw [fired] at quiet
    simp [Effect.warnings, warnings_logs quiet, addTask, running]
  | shutdown now running next => rw [warnings_drain, if_pos ⟨running, by simp⟩]
  | leave running empty => rw [warnings_drain, if_pos ⟨running, by simp⟩]
  | stop draining ended => simp [List.flatMap_map, Effect.warnings, draining]
  | @finish id task found free done ended =>
    have same : (system.finish task).1.phase = system.phase := rfl
    rw [warnings_finish, same, if_neg fun both => both.2 both.1]
  | send | stats | begin | deliver => simp [Effect.warnings, putTask]

/-- Nothing leaves the queue or enters it once the loop is left, nor by the step that leaves it. -/
theorem Step.closed (step : Step system event next effects) (left : next.phase ≠ .running) :
    next.service = system.service ∧ effects.flatMap Effect.formations = [] := by
  cases step with
  | enqueue now running | flush now running | idle now running | fire now running =>
    exact absurd running left
  | shutdown | leave =>
    exact ⟨rfl, Effect.blind_formations.flatMap (system.notes_drain _)⟩
  | stop draining ended => exact ⟨rfl, Effect.blind_formations.flatMap (notes_lost _)⟩
  | finish found free done ended =>
    exact ⟨rfl, Effect.blind_formations.flatMap (system.notes_finish _)⟩
  | send | stats | begin | deliver => exact ⟨rfl, rfl⟩

/-- The loop is not entered again. -/
theorem Step.left (step : Step system event next effects) (left : system.phase ≠ .running) :
    next.phase ≠ .running := by
  cases step with
  | enqueue now running | flush now running | stats now running | shutdown now running
  | idle now running | fire now running | leave running => exact absurd running left
  | stop => simp
  | send | begin | deliver | finish => exact left

theorem run?_closed {start : System} {events : List Event} (left : start.phase ≠ .running)
    (run : start.run? events = some (system, effects)) :
    system.phase ≠ .running ∧ system.service = start.service ∧
      effects.flatMap Effect.formations = [] := by
  refine run?_induction (fun _ system effects => system.phase ≠ .running ∧
    system.service = start.service ∧ effects.flatMap Effect.formations = []) ⟨left, rfl, rfl⟩ ?_ run
  rintro events system effects event next more ⟨left, same, none⟩ - step
  have still := step.left left
  obtain ⟨same', none'⟩ := step.closed still
  exact ⟨still, same'.trans same, by rw [List.flatMap_append, none, none', List.append_nil]⟩

theorem run?_warnings {start : System} {events : List Event} (running : start.phase = .running)
    (run : start.run? events = some (system, effects)) :
    effects.flatMap Effect.warnings =
      if system.phase = .running then [] else undelivered system.service.queue := by
  refine run?_induction (fun _ system effects => effects.flatMap Effect.warnings =
    if system.phase = .running then [] else undelivered system.service.queue) ?_ ?_ run
  · rw [if_pos running]
    rfl
  · rintro events system effects event next more before - step
    rw [List.flatMap_append, before, step.warnings]
    by_cases here : system.phase = .running
    · by_cases left : next.phase = .running
      · simp [here, left]
      · simp [here, left, (step.closed left).1]
    · have left := step.left here
      simp [here, left, (step.closed left).1]

/-- When a system has stopped, all its tasks have ended. -/
theorem isLive_of_stopped {capacity batchSize : Nat} {policy : Overflow} {interval : Span}
    {events : List Event}
    (run : (System.start capacity policy batchSize interval).run? events =
      some (system, effects)) (stopped : system.phase = .stopped) (id : Nat) :
    system.isLive id = false := by
  revert stopped
  refine run?_induction (fun _ system _ => system.phase = .stopped → system.isLive id = false)
    (fun _ => rfl) ?_ run
  intro events system effects event next more before ran step stopped
  cases step with
  | stop draining ended => exact (Ledger.of_run ran).1.isLive_of_haveEnded_inFlight ended id
  | send command taken => exact absurd stopped taken
  | enqueue now running | flush now running | stats now running | idle now running
  | fire now running =>
    have stopped : system.phase = .stopped := stopped
    rw [running] at stopped
    contradiction
  | shutdown | leave => contradiction
  | begin found | deliver found =>
    refine (isLive_putTask_of_task? found ?_ id).trans (before stopped)
    rfl
  | finish found =>
    rw [isLive, task?_finish_of_task? found]
    split
    · rfl
    · exact before stopped

end System

/-- What a system has done that was started, ran through some events and has stopped. -/
structure Completed (start : System) (events : List Event) (system : System)
    (effects : List Effect) : Prop where
  /-- Each task has delivered what was formed for it, one batch after the other. -/
  work : ∀ task, effects.flatMap (Effect.workOf task) =
    (effects.flatMap (Effect.formedFor task)).flatMap (delivery task)
  /-- Each batch formed was delivered once, and nothing else was. -/
  delivered : (effects.flatMap Effect.deliveries).Perm (effects.flatMap Effect.formations)
  /-- Each record that the queue was offered was delivered once, was lost to overflow or waits. -/
  fate : (effects.flatMap Effect.offers).Perm
    (((effects.flatMap Effect.deliveries).map Prod.snd).flatten ++
      effects.flatMap Effect.discards ++ system.service.queue.items)
  /-- Records were offered in the order in which they were sent. -/
  offered : effects.flatMap Effect.offers <+: events.flatMap Event.records
  /-- As long as it had not stopped, what was sent and not offered waited to be handled. -/
  waiting : ∀ earlier later found past, events = earlier ++ later →
    start.run? earlier = some (found, past) → found.phase ≠ .stopped →
      past.flatMap Effect.offers ++ found.inbox.flatMap Command.records =
        earlier.flatMap Event.records
  /-- No batch was formed and no record moved once the loop was left. -/
  closed : ∀ earlier later found past, events = earlier ++ later →
    start.run? earlier = some (found, past) → found.phase ≠ .running →
      ∃ rest, effects = past ++ rest ∧ rest.flatMap Effect.formations = [] ∧
        system.service = found.service
  /-- The only warning is that of the records that wait, if there are any. -/
  warned : effects.flatMap Effect.warnings = undelivered system.service.queue

theorem perm_deliveries_formations {system : System} {effects : List Effect}
    (ledger : Ledger system effects) (ended : ∀ id, system.isLive id = false) :
    (effects.flatMap Effect.deliveries).Perm (effects.flatMap Effect.formations) := by
  refine perm_of_filter fun task => ?_
  rw [← flatMap_deliveredBy_eq, ← flatMap_formedFor]
  exact ledger.deliveredBy_eq (System.remaining_of_ended (ended task))

theorem perm_offers {service : Service} {effects : List Effect}
    (accounts : Accounts service effects)
    (delivered : (effects.flatMap Effect.deliveries).Perm (effects.flatMap Effect.formations)) :
    (effects.flatMap Effect.offers).Perm
      (((effects.flatMap Effect.deliveries).map Prod.snd).flatten ++
        effects.flatMap Effect.discards ++ service.queue.items) := by
  have batches : ((effects.flatMap Effect.deliveries).map Prod.snd).flatten.Perm
      (effects.flatMap Effect.batches).flatten := by
    rw [flatMap_batches]
    exact (delivered.map Prod.snd).flatten
  refine List.Perm.trans ?_ ((batches.symm.append_right _).append_right _)
  -- What has left the queue stands on both sides of the balance and cancels.
  refine (List.perm_append_right_iff (effects.flatMap Effect.releases)).mp ?_
  have whole := perm_offers_releases effects
  rw [← accounts.order] at whole
  refine whole.trans ?_
  rw [List.append_assoc _ service.queue.items]
  exact List.perm_append_comm.append_left _

theorem stopped_complete {capacity batchSize : Nat} {policy : Overflow} {interval : Span}
    {events : List Event} {system : System} {effects : List Effect}
    (run : (System.start capacity policy batchSize interval).run? events =
      some (system, effects)) :
    (system.phase = .stopped →
      Completed (System.start capacity policy batchSize interval) events system effects) ∧
    (system.phase = .draining → ∃ last, system.CanReach last ∧ last.phase = .stopped) := by
  obtain ⟨chained, ledger⟩ := Ledger.of_run run
  refine ⟨fun stopped => ?_, System.exists_stopped chained (.of_run run)⟩
  have ended := System.isLive_of_stopped run stopped
  have delivered := perm_deliveries_formations ledger ended
  refine ⟨fun task => ?_, delivered, perm_offers (Accounts.of_run run) delivered,
    (InOrder.of_run run).offered, fun _ _ _ _ _ ran => (InOrder.of_run ran).waiting, ?_, ?_⟩
  · have work := ledger.work task
    rwa [System.remaining_of_ended (ended task), List.append_nil] at work
  · rintro earlier later found past rfl ran left
    obtain ⟨middle, first, rest, ran', last, rfl⟩ := System.run?_append.mp run
    obtain ⟨rfl, rfl⟩ := Prod.mk.inj (Option.some.inj (ran.symm.trans ran'))
    obtain ⟨-, same, none⟩ := System.run?_closed left last
    exact ⟨rest, rfl, none, same⟩
  · have warned := System.run?_warnings rfl run
    rwa [if_neg (by simp [stopped])] at warned

/-- Three records, of which the first is lost, the second is delivered after the loop is left, and
the third still waits at the end. -/
def shortened : List Event :=
  [.send (.enqueue (.ofMessage .info "first" ⟨0, 0⟩)),
    .send (.enqueue (.ofMessage .warn "second" ⟨1, 0⟩)),
    .send (.enqueue (.ofMessage .info "third" ⟨2, 0⟩)), .send .shutdown,
    .handle ⟨0⟩, .handle ⟨1⟩, .handle ⟨2⟩, .fire ⟨5⟩, .handle ⟨6⟩,
    .begin 0, .deliver 0, .finish 0, .stop]

theorem stopped_complete_shortened :
    ∃ system effects,
      (System.start 2 .dropOldest 1 ⟨5⟩).run? shortened = some (system, effects) ∧
        system.phase = .stopped ∧ system.service.queue.items.length = 1 ∧
        (effects.flatMap Effect.deliveries).length = 1 ∧
        Completed (System.start 2 .dropOldest 1 ⟨5⟩) shortened system effects := by
  have ran : ((System.start 2 .dropOldest 1 ⟨5⟩).run? shortened).map
      (fun result => (result.1.phase, result.1.service.queue.items.length,
        (result.2.flatMap Effect.deliveries).length)) = some (.stopped, 1, 1) := by
    decide +kernel
  obtain ⟨⟨system, effects⟩, run, seen⟩ := Option.map_eq_some_iff.mp ran
  obtain ⟨stopped, waiting, delivered⟩ : system.phase = .stopped ∧
      system.service.queue.items.length = 1 ∧
      (effects.flatMap Effect.deliveries).length = 1 := by simpa using seen
  exact ⟨system, effects, run, stopped, waiting, delivered, (stopped_complete run).1 stopped⟩

end FeedMonitor.Delivery
