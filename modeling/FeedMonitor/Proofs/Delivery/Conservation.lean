import FeedMonitor.Proofs.Delivery.History
import FeedMonitor.Proofs.Delivery.Run

/-!
Records are conserved.

What has left the head of the queue, followed by what waits in it, is what has entered it, in order.
The counts that the service keeps are those of its history.
-/

namespace FeedMonitor.Delivery

/-- What the queue and the counts of a service owe to its history. -/
structure Accounts (service : Service) (effects : List Effect) : Prop where
  order : effects.flatMap Effect.releases ++ service.queue.items = effects.flatMap Effect.admits
  dropped : service.queue.dropped = (effects.flatMap Effect.discards).length
  formed : service.formed = (effects.flatMap Effect.batches).length

namespace Accounts

variable {service : Service} {effects : List Effect}

theorem start (capacity : Nat) (policy : Overflow) (batchSize : Nat) (interval : Span) :
    Accounts (System.start capacity policy batchSize interval).service [] := ⟨rfl, rfl, rfl⟩

theorem stats (accounts : Accounts service effects) : service.stats = Stats.of effects := by
  have order := congrArg List.length accounts.order
  rw [List.length_append] at order
  simp only [Service.stats, Stats.of, Queue.size, accounts.dropped, accounts.formed, Stats.mk.injEq,
    and_true]
  omega

theorem append (accounts : Accounts service effects) {next : Service} {more : List Effect}
    (order : more.flatMap Effect.releases ++ next.queue.items =
      service.queue.items ++ more.flatMap Effect.admits)
    (dropped : next.queue.dropped =
      service.queue.dropped + (more.flatMap Effect.discards).length)
    (formed : next.formed = service.formed + (more.flatMap Effect.batches).length) :
    Accounts next (effects ++ more) where
  order := by
    rw [List.flatMap_append, List.flatMap_append, List.append_assoc, order, ← accounts.order,
      List.append_assoc]
  dropped := by rw [dropped, accounts.dropped, List.flatMap_append, List.length_append]
  formed := by rw [formed, accounts.formed, List.flatMap_append, List.length_append]

theorem notes (accounts : Accounts service effects) {more : List Effect}
    (notes : ∀ effect ∈ more, effect.IsNote) : Accounts service (effects ++ more) := by
  apply accounts.append
  · rw [Effect.blind_releases.flatMap notes, Effect.blind_admits.flatMap notes, List.append_nil,
      List.nil_append]
  · rw [Effect.blind_discards.flatMap notes]; rfl
  · rw [Effect.blind_batches.flatMap notes]; rfl

theorem enqueue (accounts : Accounts service effects) (now : Span) (record : Record) :
    Accounts (service.enqueue now record).2.1
      (effects ++ [.offered record (service.enqueue now record).1]) := by
  obtain ⟨outcome, queue, formed⟩ := service.queue_enqueue now record
  rw [outcome]
  rcases service.queue.enqueue_cases record with ⟨-, result, items, dropped⟩ |
    ⟨-, -, result, items, dropped⟩ | ⟨-, -, head, rest, before, result, items, dropped⟩
  · rw [result]
    apply accounts.append
    · simp [queue, items, Effect.releases, Effect.admits]
    · simp [queue, dropped, Effect.discards]
    · simp [formed, Effect.batches]
  · rw [result]
    apply accounts.append
    · simp [queue, items, Effect.releases, Effect.admits]
    · simp [queue, dropped, Effect.discards]
    · simp [formed, Effect.batches]
  · rw [result]
    apply accounts.append
    · simp [queue, items, before, Effect.releases, Effect.admits]
    · simp [queue, dropped, Effect.discards]
    · simp [formed, Effect.batches]

theorem flush (accounts : Accounts service effects) (task : Nat) :
    Accounts service.flush.2 (effects ++ service.flush.1.map (.formed task)) := by
  have lost : (service.flush.1.map (Effect.formed task)).flatMap Effect.discards = [] := by
    simp [List.flatMap_map, Effect.discards]
  apply accounts.append
  · simp [List.flatMap_map, Effect.releases, Effect.admits, List.flatMap_id']
  · rw [lost]; rfl
  · simp [List.flatMap_map, Effect.batches]

theorem idle (accounts : Accounts service effects) {now : Span} {next : Service}
    {journal : Journal} (fired : service.fire now = (none, next, journal)) :
    Accounts next effects := by
  obtain ⟨before, items, dropped, formed⟩ := Service.fire_eq_none fired
  exact ⟨by rw [items, ← before]; exact accounts.order, dropped.trans accounts.dropped,
    formed.trans accounts.formed⟩

theorem fire (accounts : Accounts service effects) {now : Span} {batch : List Record}
    {next : Service} {journal : Journal} (task : Nat)
    (fired : service.fire now = (some batch, next, journal)) :
    Accounts next (effects ++ [.formed task batch]) := by
  obtain ⟨-, taken, items, dropped, formed⟩ := Service.fire_eq_some fired
  apply accounts.append
  · simp [items, taken, Effect.releases, Effect.admits]
  · simp [dropped, Effect.discards]
  · simp [formed, Effect.batches]

theorem step {system next : System} {event : Event} {more : List Effect}
    (accounts : Accounts system.service effects) (step : system.Step event next more) :
    Accounts next.service (effects ++ more) := by
  cases step with
  | @enqueue now record inbox outcome service journal running next offered =>
    have taken := accounts.enqueue now record
    rw [offered] at taken
    have noted := taken.notes (System.notes_logs journal)
    rwa [List.append_assoc] at noted
  | flush now running next flushed =>
    have taken := accounts.flush system.nextTask
    rwa [flushed] at taken
  | idle now running set fired => exact (accounts.idle fired).notes (System.notes_logs _)
  | @fire now batch service journal running set fired =>
    have noted := (accounts.fire system.nextTask fired).notes (System.notes_logs journal)
    rwa [List.append_assoc] at noted
  | send command taken => simpa using accounts
  | stats now running next => exact accounts.notes (by simp [Effect.IsNote])
  | shutdown now running next => exact accounts.notes (System.notes_drain _ _)
  | leave running empty => exact accounts.notes (System.notes_drain _ _)
  | stop draining ended => exact accounts.notes (System.notes_lost _)
  | begin found free next ended =>
    exact accounts.append (by simp [Effect.releases, Effect.admits]; rfl)
      (by simp [Effect.discards]; rfl) (by simp [Effect.batches]; rfl)
  | deliver found busy =>
    exact accounts.append (by simp [Effect.releases, Effect.admits]; rfl)
      (by simp [Effect.discards]; rfl) (by simp [Effect.batches]; rfl)
  | finish found free done ended => exact accounts.notes (System.notes_finish _ _)

theorem of_run {capacity batchSize : Nat} {policy : Overflow} {interval : Span}
    {events : List Event} {system : System}
    (run : (System.start capacity policy batchSize interval).run? events =
      some (system, effects)) : Accounts system.service effects :=
  System.run?_induction (fun _ system effects => Accounts system.service effects)
    (start ..) (fun _ _ _ _ _ _ accounts _ step => accounts.step step) run

end Accounts

/-! ### Commands -/

def Command.records : Command → List Record
  | .enqueue record => [record]
  | _ => []

/-- The record that somebody sends. -/
def Event.records : Event → List Record
  | .send command => command.records
  | _ => []

/-- The queue is offered what was sent, in order; the rest waits until the service has stopped. -/
structure InOrder (events : List Event) (system : System) (effects : List Effect) : Prop where
  waiting : system.phase ≠ .stopped →
    effects.flatMap Effect.offers ++ system.inbox.flatMap Command.records =
      events.flatMap Event.records
  offered : effects.flatMap Effect.offers <+: events.flatMap Event.records

namespace InOrder

variable {events : List Event} {system : System} {effects : List Effect}

theorem append (order : InOrder events system effects) {next : System} {event : Event}
    {more : List Effect} (running : system.phase ≠ .stopped)
    (flow : more.flatMap Effect.offers ++ next.inbox.flatMap Command.records =
      system.inbox.flatMap Command.records ++ event.records) :
    InOrder (events ++ [event]) next (effects ++ more) := by
  have all : (effects ++ more).flatMap Effect.offers ++ next.inbox.flatMap Command.records =
      (events ++ [event]).flatMap Event.records := by
    rw [List.flatMap_append, List.append_assoc, flow, ← List.append_assoc, order.waiting running]
    simp
  exact ⟨fun _ => all, ⟨_, all⟩⟩

theorem keep (order : InOrder events system effects) {next : System} {event : Event}
    {more : List Effect} (offers : more.flatMap Effect.offers = []) (records : event.records = [])
    (waiting : next.phase ≠ .stopped → system.phase ≠ .stopped ∧ next.inbox = system.inbox) :
    InOrder (events ++ [event]) next (effects ++ more) := by
  refine ⟨fun running => ?_, by simpa [offers, records] using order.offered⟩
  obtain ⟨before, inbox⟩ := waiting running
  simpa [offers, records, inbox] using order.waiting before

theorem step {next : System} {event : Event} {more : List Effect}
    (order : InOrder events system effects) (step : system.Step event next more) :
    InOrder (events ++ [event]) next (effects ++ more) := by
  cases step with
  | send command taken => exact order.append taken (by simp [Event.records])
  | enqueue now running next offered =>
    exact order.append (by simp [running])
      (by simp [next, Effect.blind_offers.logs, Effect.offers, Command.records, Event.records])
  | flush now running next flushed =>
    exact order.append (by simp [running])
      (by simp [next, List.flatMap_map, Effect.offers, Command.records, Event.records,
        System.addTask])
  | stats now running next =>
    exact order.append (by simp [running])
      (by simp [next, Effect.offers, Command.records, Event.records])
  | shutdown now running next =>
    refine order.append (by simp [running]) ?_
    rw [Effect.blind_offers.flatMap (system.notes_drain _)]
    simp [next, Command.records, Event.records]
  | idle now running set fired =>
    exact order.keep (Effect.blind_offers.logs _) rfl fun before => ⟨before, rfl⟩
  | fire now running set fired =>
    exact order.keep (by simp [Effect.blind_offers.logs, Effect.offers]) rfl fun before =>
      ⟨before, rfl⟩
  | leave running empty =>
    exact order.keep (Effect.blind_offers.flatMap (system.notes_drain _)) rfl fun _ =>
      ⟨by simp [running], rfl⟩
  | stop draining ended =>
    exact order.keep (Effect.blind_offers.flatMap (System.notes_lost _)) rfl (by simp)
  | begin found free next ended => exact order.keep rfl rfl fun before => ⟨before, rfl⟩
  | deliver found busy => exact order.keep rfl rfl fun before => ⟨before, rfl⟩
  | finish found free done ended =>
    exact order.keep (Effect.blind_offers.flatMap (System.notes_finish _ _)) rfl fun before =>
      ⟨before, rfl⟩

theorem of_run {capacity batchSize : Nat} {policy : Overflow} {interval : Span}
    (run : (System.start capacity policy batchSize interval).run? events =
      some (system, effects)) : InOrder events system effects :=
  System.run?_induction InOrder ⟨fun _ => rfl, List.prefix_rfl⟩
    (fun _ _ _ _ _ _ order _ step => order.step step) run

end InOrder

/-- An answer to a request for counts gives those of the history before it. -/
theorem stats_of_answer {capacity batchSize : Nat} {policy : Overflow} {interval : Span}
    {events : List Event} {system : System} {earlier later : List Effect} {request : Nat}
    {stats : Stats}
    (run : (System.start capacity policy batchSize interval).run? events =
      some (system, earlier ++ .answered request (.stats stats) :: later)) :
    stats = Stats.of earlier := by
  obtain ⟨before, event, after, past, found, next, ahead, behind, rfl, ran, step, rfl⟩ :=
    System.run?_emits run
  have member : .answered request (.stats stats) ∈
      ahead ++ .answered request (.stats stats) :: behind := by simp
  rcases step.answered member with ⟨counted, alone⟩ | ⟨_, _, _, _, _, _, other, _⟩
  · obtain ⟨rfl, -⟩ := List.append_eq_singleton_iff.mp alone |>.resolve_right (by simp)
    rw [List.append_nil, ← (Accounts.of_run ran).stats]
    exact Answer.stats.inj counted
  · contradiction

/-- What becomes of a record depends on how many wait when it is offered. -/
theorem outcome_of_offer {capacity batchSize : Nat} {policy : Overflow} {interval : Span}
    {events : List Event} {system : System} {earlier later : List Effect} {record : Record}
    {outcome : Queue.Outcome Record}
    (run : (System.start capacity policy batchSize interval).run? events =
      some (system, earlier ++ .offered record outcome :: later)) :
    (outcome = .accepted ∧ (Stats.of earlier).pending < max capacity 1) ∨
      (outcome = .dropped ∧ (Stats.of earlier).pending = max capacity 1 ∧
        policy = .dropNewest) ∨
      ∃ head, outcome = .evicted head ∧ (Stats.of earlier).pending = max capacity 1 ∧
        policy = .dropOldest := by
  obtain ⟨before, event, after, past, found, next, ahead, behind, rfl, ran, step, rfl⟩ :=
    System.run?_emits run
  obtain ⟨rfl, journal, alone⟩ := step.offered (List.mem_append_right ahead List.mem_cons_self)
  have first : ahead = [] := by
    cases ahead with
    | nil => rfl
    | cons effect ahead =>
      have among : .offered record (found.service.queue.enqueue record).1 ∈
          System.logs journal := by
        rw [← (List.cons.inj alone).2]
        simp
      simp [System.logs] at among
  have settings := System.run?_settings ran
  have kept : found.service.queue.capacity = max capacity 1 ∧
      found.service.queue.policy = policy := by
    simp only [Service.settings, Prod.mk.injEq] at settings
    exact ⟨settings.1, settings.2.1⟩
  have pending : (Stats.of past).pending = found.service.queue.items.length := by
    rw [← (Accounts.of_run ran).stats]
    rfl
  rw [first, List.append_nil, pending, ← kept.1, ← kept.2]
  rcases found.service.queue.enqueue_cases record with ⟨room, result, -⟩ |
    ⟨full, turned, result, -⟩ | ⟨full, turned, head, -, -, result, -⟩
  · exact .inl ⟨result, room⟩
  · exact .inr (.inl ⟨result, full, turned⟩)
  · exact .inr (.inr ⟨head, result, full, turned⟩)

/-- Conservation and order, as a history shows them. -/
structure Conserved (capacity : Nat) (policy : Overflow) (events : List Event) (system : System)
    (effects : List Effect) : Prop where
  /-- What has left the head of the queue and then what waits is what has entered, in order. -/
  order : effects.flatMap Effect.releases ++ system.service.queue.items =
    effects.flatMap Effect.admits
  /-- Batches have what has left, in order and once, but for what overflow has lost. -/
  batched : (effects.flatMap Effect.batches).flatten.Sublist (effects.flatMap Effect.releases)
  /-- Each record that was offered is in a batch, waits or was lost. -/
  total : (effects.flatMap Effect.batches).flatten.length + system.service.queue.size +
    system.service.queue.dropped = (effects.flatMap Effect.offers).length
  /-- Records are offered in the order in which they were sent. -/
  offered : effects.flatMap Effect.offers <+: events.flatMap Event.records
  /-- Until the service has stopped, what was sent and not offered waits to be handled. -/
  waiting : system.phase ≠ .stopped →
    effects.flatMap Effect.offers ++ system.inbox.flatMap Command.records =
      events.flatMap Event.records
  /-- Records are lost only where the queue is full, and the policy says which. -/
  outcome : ∀ earlier record outcome later, effects = earlier ++ .offered record outcome :: later →
    (outcome = .accepted ∧ (Stats.of earlier).pending < max capacity 1) ∨
      (outcome = .dropped ∧ (Stats.of earlier).pending = max capacity 1 ∧
        policy = .dropNewest) ∨
      ∃ head, outcome = .evicted head ∧ (Stats.of earlier).pending = max capacity 1 ∧
        policy = .dropOldest
  /-- The service counts what has happened. -/
  counts : system.service.stats = Stats.of effects
  /-- A request for counts is answered with what has happened before. -/
  answers : ∀ earlier request stats later,
    effects = earlier ++ .answered request (.stats stats) :: later → stats = Stats.of earlier

theorem records_conserved {capacity batchSize : Nat} {policy : Overflow} {interval : Span}
    {events : List Event} {system : System} {effects : List Effect}
    (run : (System.start capacity policy batchSize interval).run? events =
      some (system, effects)) : Conserved capacity policy events system effects := by
  have accounts := Accounts.of_run run
  have order := congrArg List.length accounts.order
  have lengths := length_offers_add_releases effects
  rw [List.length_append] at order
  refine ⟨accounts.order, flatten_batches_sublist effects, ?_, (InOrder.of_run run).offered,
    (InOrder.of_run run).waiting, ?_, accounts.stats, ?_⟩
  · rw [accounts.dropped, Queue.size]
    omega
  · rintro earlier record outcome later rfl
    exact outcome_of_offer run
  · rintro earlier request stats later rfl
    exact stats_of_answer run

/-- Three records for a queue of two, then the timer, then a request for counts. -/
def crowded : List Event :=
  [.send (.enqueue (.ofMessage .info "first" ⟨0, 0⟩)),
    .send (.enqueue (.ofMessage .warn "second" ⟨1, 0⟩)),
    .send (.enqueue (.ofMessage .info "third" ⟨2, 0⟩)),
    .handle ⟨0⟩, .handle ⟨1⟩, .handle ⟨2⟩, .fire ⟨5⟩, .send (.stats 0), .handle ⟨6⟩]

theorem records_conserved_crowded :
    ∃ system effects,
      (System.start 2 .dropOldest 1 ⟨5⟩).run? crowded = some (system, effects) ∧
        effects.flatMap Effect.answers = [(0, .stats ⟨1, 1, 1⟩)] ∧
        Conserved 2 .dropOldest crowded system effects := by
  have ran : ((System.start 2 .dropOldest 1 ⟨5⟩).run? crowded).map
      (fun result => result.2.flatMap Effect.answers) = some [(0, .stats ⟨1, 1, 1⟩)] := by
    decide +kernel
  obtain ⟨⟨system, effects⟩, run, answers⟩ := Option.map_eq_some_iff.mp ran
  exact ⟨system, effects, run, answers, records_conserved run⟩

end FeedMonitor.Delivery
