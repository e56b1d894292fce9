import FeedMonitor.Proofs.Delivery.History
import FeedMonitor.Proofs.Run

/-!
The steps of a delivery system case by case, and induction over its runs.
-/

namespace FeedMonitor.Delivery.System

/-- The system before anything has been asked of it. -/
def start (capacity : Nat) (policy : Overflow) (batchSize : Nat) (interval : Span) : System :=
  .ofService (.ofQueue (.ofCapacity capacity policy) batchSize interval)

/-- All that an event can do, each command and each outcome of the timer for itself. -/
inductive Step (system : System) : Event → System → List Effect → Prop
  | send (command : Command) (taken : system.phase ≠ .stopped) :
      Step system (.send command) { system with inbox := system.inbox ++ [command] } []
  | enqueue (now : Span) {record : Record} {inbox : List Command}
      {outcome : Queue.Outcome Record} {service : Service} {journal : Journal}
      (running : system.phase = .running) (next : system.inbox = .enqueue record :: inbox)
      (offered : system.service.enqueue now record = (outcome, service, journal)) :
      Step system (.handle now) { system with inbox, service }
        (.offered record outcome :: logs journal)
  | flush (now : Span) {request : Nat} {inbox : List Command} {taken : List (List Record)}
      {service : Service} (running : system.phase = .running)
      (next : system.inbox = .flush request :: inbox)
      (flushed : system.service.flush = (taken, service)) :
      Step system (.handle now)
        { ({ system with inbox, service }).addTask system.inFlight taken
            (some (request, taken.flatten.length)) with inFlight := [system.nextTask] }
        (taken.map (.formed system.nextTask))
  | stats (now : Span) {request : Nat} {inbox : List Command}
      (running : system.phase = .running) (next : system.inbox = .stats request :: inbox) :
      Step system (.handle now) { system with inbox }
        [.answered request (.stats system.service.stats)]
  | shutdown (now : Span) {inbox : List Command}
      (running : system.phase = .running) (next : system.inbox = .shutdown :: inbox) :
      Step system (.handle now) { system with inbox, phase := .draining }
        (serviceLine "Delivery service shutting down" :: system.drain.2)
  | idle (now : Span) {service : Service} {journal : Journal} (running : system.phase = .running)
      (set : system.service.timer.isSome)
      (fired : system.service.fire now = (none, service, journal)) :
      Step system (.fire now) { system with service } (logs journal)
  | fire (now : Span) {batch : List Record} {service : Service} {journal : Journal}
      (running : system.phase = .running) (set : system.service.timer.isSome)
      (fired : system.service.fire now = (some batch, service, journal)) :
      Step system (.fire now)
        { ({ system with service }).addTask [] [batch] none with
          inFlight := system.inFlight ++ [system.nextTask] }
        (.formed system.nextTask batch :: logs journal)
  | leave (running : system.phase = .running) (empty : system.inbox = []) :
      Step system .leave { system with phase := .draining }
        (serviceLine "All delivery handles dropped" :: system.drain.2)
  | stop (draining : system.phase = .draining) (ended : system.haveEnded system.inFlight) :
      Step system .stop { system with phase := .stopped, inbox := [] }
        ((system.inbox.filterMap Command.request?).map .lost)
  | begin {id : Nat} {task : Task} {batch : List Record} {rest : List (List Record)}
      (found : system.task? id = some task) (free : task.current = none)
      (next : task.batches = batch :: rest) (ended : system.haveEnded task.after) :
      Step system (.begin id)
        (system.putTask { task with current := some batch, batches := rest }) [.begun id batch]
  | deliver {id : Nat} {task : Task} {batch : List Record}
      (found : system.task? id = some task) (busy : task.current = some batch) :
      Step system (.deliver id) (system.putTask { task with current := none })
        [.delivered id batch]
  | finish {id : Nat} {task : Task}
      (found : system.task? id = some task) (free : task.current = none)
      (done : task.batches = []) (ended : system.haveEnded task.after) :
      Step system (.finish id) (system.finish task).1 (system.finish task).2

theorem step_of_handle {system next : System} {inbox : List Command} {command : Command}
    {now : Span} {effects : List Effect} (running : system.phase = .running)
    (waiting : system.inbox = command :: inbox)
    (result : ({ system with inbox }).handle now command = (next, effects)) :
    Step system (.handle now) next effects := by
  cases command with
  | enqueue record =>
    obtain ⟨rfl, rfl⟩ := Prod.mk.inj result
    exact .enqueue now running waiting rfl
  | flush request =>
    obtain ⟨rfl, rfl⟩ := Prod.mk.inj result
    exact .flush now running waiting rfl
  | stats request =>
    obtain ⟨rfl, rfl⟩ := Prod.mk.inj result
    exact .stats now running waiting
  | shutdown =>
    obtain ⟨rfl, rfl⟩ := Prod.mk.inj result
    exact .shutdown now running waiting

theorem step_of_fire {system next : System} {now : Span} {effects : List Effect}
    (running : system.phase = .running) (set : system.service.timer.isSome)
    (result : system.fire now = (next, effects)) : Step system (.fire now) next effects := by
  unfold System.fire at result
  split at result
  · rename_i fired
    obtain ⟨rfl, rfl⟩ := Prod.mk.inj result
    exact .idle now running set fired
  · rename_i fired
    obtain ⟨rfl, rfl⟩ := Prod.mk.inj result
    exact .fire now running set fired

theorem step_of_step? {system next : System} {event : Event} {effects : List Effect}
    (result : system.step? event = some (next, effects)) : Step system event next effects := by
  cases event with
  | send command =>
    simp only [step?, send?, Option.map_eq_some_iff, Prod.mk.injEq] at result
    obtain ⟨sent, result, rfl, rfl⟩ := result
    split at result
    · contradiction
    · cases result
      exact .send command ‹_›
  | handle now =>
    simp only [step?] at result
    split at result
    · rename_i running waiting
      exact step_of_handle running waiting (Option.some.inj result)
    · contradiction
  | fire now =>
    simp only [step?] at result
    split at result
    · rename_i able
      exact step_of_fire able.1 able.2 (Option.some.inj result)
    · contradiction
  | leave =>
    simp only [step?] at result
    split at result
    · rename_i able
      cases result
      exact .leave able.1 (List.isEmpty_iff.mp able.2)
    · contradiction
  | stop =>
    simp only [step?] at result
    split at result
    · rename_i able
      cases result
      exact .stop able.1 able.2
    · contradiction
  | begin id =>
    simp only [step?] at result
    split at result
    · rename_i found
      split at result
      · rename_i free next
        split at result
        · cases result
          exact .begin found free next ‹_›
        · contradiction
      · contradiction
    · contradiction
  | deliver id =>
    simp only [step?] at result
    split at result
    · rename_i found
      obtain ⟨batch, busy, same⟩ := Option.map_eq_some_iff.mp result
      cases same
      exact .deliver found busy
    · contradiction
  | finish id =>
    simp only [step?] at result
    split at result
    · rename_i found
      split at result
      · rename_i able
        obtain ⟨rfl, rfl⟩ := Prod.mk.inj (Option.some.inj result)
        exact .finish found (Option.isNone_iff_eq_none.mp able.1) (List.isEmpty_iff.mp able.2.1)
          able.2.2
      · contradiction
    · contradiction

/-- Counts are answered by the service and flushes by their tasks. -/
theorem Step.answered {system next : System} {event : Event} {effects : List Effect}
    {request : Nat} {answer : Answer} (step : Step system event next effects)
    (member : .answered request answer ∈ effects) :
    (answer = .stats system.service.stats ∧ effects = [.answered request answer]) ∨
      ∃ id task count, event = .finish id ∧ system.task? id = some task ∧
        task.reply = some (request, count) ∧ answer = .flushed count ∧
        system.haveEnded task.after ∧ task.current = none ∧ task.batches = [] := by
  cases step with
  | stats now running next =>
    obtain ⟨rfl, rfl⟩ := Effect.answered.inj (List.mem_singleton.mp member)
    exact .inl ⟨rfl, rfl⟩
  | finish found free done ended =>
    unfold System.finish at member
    split at member
    · contradiction
    · rename_i reply
      simp only [serviceLine, List.mem_cons, reduceCtorEq, Effect.answered.injEq, List.not_mem_nil,
        or_false, false_or] at member
      obtain ⟨rfl, rfl⟩ := member
      exact .inr ⟨_, _, _, rfl, found, reply, rfl, ended, free, done⟩
  | shutdown | leave =>
    unfold drain at member
    split at member <;> simp [serviceLine] at member
  | _ => simp [logs] at member

/-- A delivery is begun by a task that waits for no other. -/
theorem Step.begun {system next : System} {event : Event} {effects : List Effect} {id : Nat}
    {batch : List Record} (step : Step system event next effects)
    (member : .begun id batch ∈ effects) :
    ∃ task, system.task? id = some task ∧ system.haveEnded task.after := by
  cases step with
  | begin found free next ended =>
    obtain ⟨rfl, -⟩ := Effect.begun.inj (List.mem_singleton.mp member)
    exact ⟨_, found, ended⟩
  | finish => exact (notes_finish _ _ _ member).elim
  | shutdown | leave => exact (system.notes_drain _ _ member).elim
  | _ => simp [logs] at member

/-- An outcome is that of the queue. -/
theorem Step.offered {system next : System} {event : Event} {effects : List Effect}
    {record : Record} {outcome : Queue.Outcome Record} (step : Step system event next effects)
    (member : .offered record outcome ∈ effects) :
    outcome = (system.service.queue.enqueue record).1 ∧
      ∃ journal, effects = .offered record outcome :: logs journal := by
  cases step with
  | @enqueue now other inbox result service journal running next offered =>
    have same : result = (system.service.queue.enqueue other).1 := by
      rw [← (system.service.queue_enqueue now other).1, offered]
    rcases List.mem_cons.mp member with here | logged
    · obtain ⟨rfl, rfl⟩ := Effect.offered.inj here
      exact ⟨same, journal, rfl⟩
    · simp [logs] at logged
  | finish => exact (notes_finish _ _ _ member).elim
  | shutdown | leave => exact (system.notes_drain _ _ member).elim
  | _ => simp [logs] at member

/-- Settings stay as they are. -/
theorem Step.settings {system next : System} {event : Event} {effects : List Effect}
    (step : Step system event next effects) : next.service.settings = system.service.settings := by
  cases step with
  | @enqueue now record inbox outcome service journal running next offered =>
    have kept := system.service.settings_enqueue now record
    rwa [offered] at kept
  | flush now running next flushed =>
    have kept := system.service.settings_flush
    rwa [flushed] at kept
  | idle now running set fired | fire now running set fired =>
    have kept := system.service.settings_fire now
    rwa [fired] at kept
  | _ => rfl

theorem runs : Runs step? run? where
  nil _ := rfl
  cons system event rest := by
    rw [run?]
    cases system.step? event with
    | none => rfl
    | some stepped => exact (Option.map_eq_bind ..).symm

theorem run?_cons {system final : System} {event : Event} {rest : List Event}
    {effects : List Effect} :
    system.run? (event :: rest) = some (final, effects) ↔
      ∃ next first more, system.step? event = some (next, first) ∧
        next.run? rest = some (final, more) ∧ effects = first ++ more := runs.cons_iff

theorem run?_append {system final : System} {earlier later : List Event}
    {effects : List Effect} :
    system.run? (earlier ++ later) = some (final, effects) ↔
      ∃ middle first more, system.run? earlier = some (middle, first) ∧
        middle.run? later = some (final, more) ∧ effects = first ++ more := runs.append_iff

/-- What holds at the start and is kept by every step holds after every run. -/
theorem run?_induction {start : System} (holds : List Event → System → List Effect → Prop)
    (initial : holds [] start [])
    (step : ∀ events system effects event next more, holds events system effects →
      start.run? events = some (system, effects) → Step system event next more →
      holds (events ++ [event]) next (effects ++ more))
    {events : List Event} {system : System} {effects : List Effect}
    (run : start.run? events = some (system, effects)) : holds events system effects :=
  runs.induction holds initial
    (fun _ _ _ _ _ _ before ran stepped => step _ _ _ _ _ _ before ran (step_of_step? stepped)) run

theorem run?_settings {start system : System} {events : List Event} {effects : List Effect}
    (run : start.run? events = some (system, effects)) :
    system.service.settings = start.service.settings :=
  run?_induction (fun _ system _ => system.service.settings = start.service.settings) rfl
    (fun _ _ _ _ _ _ kept _ step => step.settings.trans kept) run

/-- An effect of a run comes from a step, before which the effects ahead of it have happened. -/
theorem run?_emits {start system : System} {events : List Event} {earlier later : List Effect}
    {effect : Effect} (run : start.run? events = some (system, earlier ++ effect :: later)) :
    ∃ before event after past found next ahead behind,
      events = before ++ event :: after ∧ start.run? before = some (found, past) ∧
      Step found event next (ahead ++ effect :: behind) ∧ earlier = past ++ ahead := by
  obtain ⟨before, event, after, past, found, next, ahead, behind, split, ran, stepped, past_eq⟩ :=
    runs.emits run
  exact ⟨before, event, after, past, found, next, ahead, behind, split, ran, step_of_step? stepped,
    past_eq⟩

end FeedMonitor.Delivery.System
