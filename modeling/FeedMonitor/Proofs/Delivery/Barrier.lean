import FeedMonitor.Proofs.Delivery.Conservation
import FeedMonitor.Proofs.Delivery.Tasks

/-!
A flush is a barrier.

When a flush is answered, all that was in the queue when it was handled, and all that had left the
queue before, has been delivered, unless overflow has lost it. The batches of a flush are delivered
one after the other, and none of them before all that was formed earlier has been delivered.
-/

namespace FeedMonitor.Delivery

/-- Each batch that a history has formed is delivered, in order, task by task. -/
def Delivered (formed effects : List Effect) : Prop :=
  ∀ task, formed.flatMap (Effect.formedFor task) <+: effects.flatMap (Effect.deliveredBy task)

theorem Delivered.append {formed effects : List Effect} (delivered : Delivered formed effects)
    (more : List Effect) : Delivered formed (effects ++ more) := by
  intro task
  rw [List.flatMap_append]
  exact (delivered task).trans (List.prefix_append _ _)

/-- A flush that a run has handled. -/
structure HandledFlush (start : System) (events : List Event) where
  request : Nat
  /-- The events before it. -/
  earlier : List Event
  now : Span
  /-- The events after it. -/
  later : List Event
  split : events = earlier ++ .handle now :: later
  /-- The system that it found. -/
  found : System
  /-- The effects before it. -/
  past : List Effect
  reached : start.run? earlier = some (found, past)
  running : found.phase = .running
  next : found.inbox.head? = some (.flush request)

namespace HandledFlush

variable {start : System} {events : List Event}

/-- The task that delivers what it took. -/
def task (flush : HandledFlush start events) : Nat := flush.found.nextTask

/-- What it took from the queue. -/
def batches (flush : HandledFlush start events) : List (List Record) :=
  flush.found.service.flush.1

/-- The effects up to it and of it. -/
def effects (flush : HandledFlush start events) : List Effect :=
  flush.past ++ flush.batches.map (.formed flush.task)

def extend (flush : HandledFlush start events) (more : List Event) :
    HandledFlush start (events ++ more) :=
  { flush with
    later := flush.later ++ more
    split := (congrArg (· ++ more) flush.split).trans (by simp) }

/-- The run up to the flush and from the system that it leaves behind. -/
theorem exists_after (flush : HandledFlush start events) {system : System}
    {effects : List Effect} (run : start.run? events = some (system, effects)) :
    ∃ after rest, start.run? (flush.earlier ++ [.handle flush.now]) = some (after, flush.effects) ∧
      after.run? flush.later = some (system, rest) ∧ effects = flush.effects ++ rest ∧
      after.nextTask = flush.task + 1 ∧
      after.tasks = flush.found.tasks ++
        [⟨flush.task, flush.found.inFlight, flush.batches, none,
          some (flush.request, flush.batches.flatten.length)⟩] := by
  obtain ⟨request, earlier, now, later, rfl, found, past, reached, running, next⟩ := flush
  obtain ⟨middle, first, more, ran, last, rfl⟩ := System.run?_append.mp run
  rw [reached] at ran
  cases ran
  obtain ⟨after, formed, rest, stepped, ended, rfl⟩ := System.run?_cons.mp last
  obtain ⟨inbox, waiting⟩ : ∃ inbox, found.inbox = .flush request :: inbox := by
    cases waiting : found.inbox with
    | nil => simp [waiting] at next
    | cons command inbox =>
      rw [waiting, List.head?_cons, Option.some.injEq] at next
      exact ⟨inbox, by rw [next]⟩
  have result := stepped
  simp only [System.step?, running, waiting, Option.some.injEq] at result
  obtain ⟨rfl, rfl⟩ := Prod.mk.inj result
  refine ⟨_, rest, ?_, ended, (List.append_assoc ..).symm, rfl, rfl⟩
  exact System.run?_append.mpr ⟨found, past, _, reached,
    System.run?_cons.mpr ⟨_, _, [], stepped, rfl, (List.append_nil _).symm⟩, rfl⟩

/-- What was formed for a task up to the flush is all that is ever formed for it, unless the task is
started later. -/
theorem formedFor_effects (flush : HandledFlush start events) {system : System}
    {effects : List Effect} (run : start.run? events = some (system, effects)) {id : Nat}
    (known : id ≤ flush.task) :
    effects.flatMap (Effect.formedFor id) = flush.effects.flatMap (Effect.formedFor id) := by
  obtain ⟨after, rest, -, last, rfl, numbers, -⟩ := flush.exists_after run
  rw [List.flatMap_append, (System.run?_numbers last).2.1 id (by omega), List.append_nil]

end HandledFlush

section Start

variable {capacity batchSize : Nat} {policy : Overflow} {interval : Span}
  {events : List Event} {system : System} {effects : List Effect}

namespace HandledFlush

variable (flush : HandledFlush (System.start capacity policy batchSize interval) events)

theorem formedFor_past {id : Nat} (later : flush.task ≤ id) :
    flush.past.flatMap (Effect.formedFor id) = [] :=
  (Ledger.of_run flush.reached).2.fresh id later

theorem formedFor_batches (id : Nat) :
    (flush.batches.map (Effect.formed flush.task)).flatMap (Effect.formedFor id) =
      if flush.task = id then flush.batches else [] := by
  simp only [List.flatMap_map, Effect.formedFor]
  split <;> simp [List.flatMap_singleton']

theorem formedFor_of_later {id : Nat} (later : flush.task < id) :
    flush.effects.flatMap (Effect.formedFor id) = [] := by
  rw [HandledFlush.effects, List.flatMap_append, flush.formedFor_past (Nat.le_of_lt later),
    flush.formedFor_batches, if_neg (by omega), List.append_nil]

theorem formedFor_task :
    flush.effects.flatMap (Effect.formedFor flush.task) = flush.batches := by
  rw [HandledFlush.effects, List.flatMap_append, flush.formedFor_past (Nat.le_refl _),
    flush.formedFor_batches, if_pos rfl, List.nil_append]

/-- The flush empties the queue. -/
theorem releases_effects :
    flush.effects.flatMap Effect.releases = flush.past.flatMap Effect.admits := by
  have taken : (flush.batches.map (Effect.formed flush.task)).flatMap Effect.releases =
      flush.found.service.queue.items := by
    rw [← Service.flatten_flush, List.flatMap_map]
    exact List.flatMap_id
  rw [HandledFlush.effects, List.flatMap_append, taken]
  exact (Accounts.of_run flush.reached).order

end HandledFlush

/-- Every task that answers a flush was started by it. -/
theorem exists_flush
    (run : (System.start capacity policy batchSize interval).run? events =
      some (system, effects)) :
    ∀ id task request count, system.task? id = some task → task.reply = some (request, count) →
      ∃ flush : HandledFlush (System.start capacity policy batchSize interval) events,
        flush.request = request ∧ flush.task = id ∧
          flush.found.service.queue.size = count := by
  refine System.run?_induction
    (fun events system _ => ∀ id task request count, system.task? id = some task →
      task.reply = some (request, count) →
        ∃ flush : HandledFlush (System.start capacity policy batchSize interval) events,
          flush.request = request ∧ flush.task = id ∧
            flush.found.service.queue.size = count)
    (fun _ _ _ _ found _ => by cases found) ?_ run
  intro events system effects event next more before ran step id task request count found reply
  rcases step.origin found with ⟨task', held, same⟩ | ⟨rfl, new⟩
  · obtain ⟨flush, facts⟩ := before id task' request count held (same.trans reply)
    exact ⟨flush.extend [event], facts⟩
  · obtain ⟨now, rfl, running, waiting, size⟩ := new request count reply
    exact ⟨⟨request, events, now, [], rfl, system, effects, ran, running, waiting⟩, rfl, rfl, size⟩

namespace HandledFlush

variable (flush : HandledFlush (System.start capacity policy batchSize interval) events)

/-- As long as its task lasts, it is the flush that the task answers. -/
theorem reply_task
    (run : (System.start capacity policy batchSize interval).run? events =
      some (system, effects)) {task : Task} (found : system.task? flush.task = some task) :
    task.reply = some (flush.request, flush.batches.flatten.length) := by
  obtain ⟨after, rest, -, last, -, numbers, tasks⟩ := flush.exists_after run
  obtain ⟨before, first, same⟩ :=
    (System.run?_numbers last).2.2 flush.task (by omega) task found
  have absent : flush.found.tasks.find? (fun other => other.id == flush.task) = none :=
    (Ledger.of_run flush.reached).1.task?_nextTask
  rw [System.task?, tasks, List.find?_append, absent, Option.none_or] at first
  simp only [List.find?_singleton, beq_self_eq_true, if_true, Option.some.injEq] at first
  rw [← same, ← first]

/-- A flush whose task is known was handled before. -/
theorem exists_of_known {earlier later : List Event} {start : System}
    (flush : HandledFlush start (earlier ++ later))
    (run : start.run? earlier = some (system, effects)) (known : flush.task < system.nextTask) :
    ∃ same : HandledFlush start earlier, same.task = flush.task ∧ same.past = flush.past := by
  -- Task numbers grow along the run, so the flush cannot lie behind a system that knows its task.
  have reached_later {between : List Event} (split : flush.earlier = earlier ++ between) :
      False := by
    have reached := flush.reached
    rw [split] at reached
    obtain ⟨middle, first, more, ran, last, -⟩ := System.run?_append.mp reached
    rw [run] at ran
    cases ran
    exact Nat.lt_irrefl _ (Nat.lt_of_lt_of_le known (System.run?_numbers last).1)
  rcases List.append_eq_append_iff.mp flush.split.symm with
    ⟨between, split, rest⟩ | ⟨between, split, -⟩
  · cases between with
    | nil =>
      have same : flush.earlier = earlier := by simpa using split.symm
      exact (reached_later (same.trans (List.append_nil _).symm)).elim
    | cons event between =>
      obtain ⟨rfl, -⟩ := List.cons.inj rest
      exact ⟨{ flush with later := between, split }, rfl, rfl⟩
  · exact (reached_later split).elim

/-- Tasks that have nothing left to do have delivered all that a history formed for them. -/
theorem delivered_past
    (run : (System.start capacity policy batchSize interval).run? events =
      some (system, effects)) (done : ∀ id < flush.task, system.remaining id = []) :
    Delivered flush.past effects := by
  intro id
  by_cases below : id < flush.task
  · have formed := flush.formedFor_effects run (Nat.le_of_lt below)
    rw [HandledFlush.effects, List.flatMap_append, flush.formedFor_batches, if_neg (by omega),
      List.append_nil] at formed
    have delivered := (Ledger.of_run run).2.deliveredBy_eq (done id below)
    exact ⟨[], by rw [List.append_nil, delivered, formed]⟩
  · rw [flush.formedFor_past (Nat.le_of_not_lt below)]
    exact List.nil_prefix

theorem delivered_effects
    (run : (System.start capacity policy batchSize interval).run? events =
      some (system, effects)) (done : ∀ id ≤ flush.task, system.remaining id = []) :
    Delivered flush.effects effects := by
  intro id
  by_cases known : id ≤ flush.task
  · have delivered := (Ledger.of_run run).2.deliveredBy_eq (done id known)
    exact ⟨[], by rw [List.append_nil, delivered, flush.formedFor_effects run known]⟩
  · rw [flush.formedFor_of_later (Nat.lt_of_not_le known)]
    exact List.nil_prefix

end HandledFlush

/-- When a flush is answered, all that it found has been delivered, and what it took. -/
theorem delivered_of_answer {earlier later : List Effect} {request count : Nat}
    (run : (System.start capacity policy batchSize interval).run? events =
      some (system, earlier ++ .answered request (.flushed count) :: later)) :
    ∃ flush : HandledFlush (System.start capacity policy batchSize interval) events,
      flush.request = request ∧ flush.found.service.queue.size = count ∧
        flush.effects <+: earlier ∧ Delivered flush.effects earlier := by
  obtain ⟨before, event, after, past, found, next, ahead, behind, rfl, ran, step, rfl⟩ :=
    System.run?_emits run
  have member : .answered request (.flushed count) ∈
      ahead ++ .answered request (.flushed count) :: behind := by simp
  rcases step.answered member with ⟨other, -⟩ |
    ⟨id, task, _, -, held, reply, same, ended, free, done⟩
  · contradiction
  cases same
  obtain ⟨flush, asked, started, size⟩ := exists_flush ran id task request count held reply
  obtain ⟨_, rest, -, -, split, -, -⟩ := flush.exists_after ran
  have chained := (Ledger.of_run ran).1
  have delivered : Delivered flush.effects past := by
    refine flush.delivered_effects ran fun other known => ?_
    rcases Nat.lt_or_eq_of_le known with below | rfl
    · rw [started] at below
      have covers := chained.after id task held (by rw [reply]; rfl)
      exact System.remaining_of_ended (covers.ended ended below)
    · rw [started, System.remaining, held]
      simp [Task.remaining, free, done]
  refine ⟨flush.extend (event :: after), asked, size, ?_, delivered.append ahead⟩
  rw [split]
  exact ⟨rest ++ ahead, (List.append_assoc ..).symm⟩

/-- No batch of a flush is begun before all that was formed earlier has been delivered. -/
theorem delivered_of_begun
    (flush : HandledFlush (System.start capacity policy batchSize interval) events)
    {earlier later : List Effect} {batch : List Record}
    (run : (System.start capacity policy batchSize interval).run? events =
      some (system, earlier ++ .begun flush.task batch :: later)) :
    Delivered flush.past earlier := by
  obtain ⟨before, event, after, past, found, next, ahead, behind, rfl, ran, step, rfl⟩ :=
    System.run?_emits run
  obtain ⟨task, held, ended⟩ := step.begun (List.mem_append_right ahead List.mem_cons_self)
  have chained := (Ledger.of_run ran).1
  have known := chained.numbered _ (System.isLive_of_task? held)
  obtain ⟨same, number, history⟩ := flush.exists_of_known ran known
  rw [← number] at held
  have reply := same.reply_task ran held
  have delivered : Delivered same.past past := by
    refine same.delivered_past ran fun other below => ?_
    have covers := chained.after _ task held (by rw [reply]; rfl)
    exact System.remaining_of_ended (covers.ended ended below)
  rw [← history]
  exact delivered.append ahead

end Start

/-- What a flush promises of the deliveries of a history. -/
structure FlushBarrier (start : System) (events : List Event) (effects : List Effect) : Prop where
  /-- An answer counts the records that the flush found in the queue. By then all that had entered
  the queue before the flush has left it, and all of this that overflow has not lost, in batches of
  whatever task, has been delivered. -/
  answered : ∀ earlier request count later,
    effects = earlier ++ .answered request (.flushed count) :: later →
      ∃ flush : HandledFlush start events, flush.request = request ∧
        flush.found.service.queue.size = count ∧ flush.effects <+: earlier ∧
        flush.effects.flatMap Effect.releases = flush.past.flatMap Effect.admits ∧
        Delivered flush.effects earlier
  /-- No batch of a flush is begun before all batches formed earlier have been delivered. -/
  begun : ∀ (flush : HandledFlush start events) earlier batch later,
    effects = earlier ++ .begun flush.task batch :: later → Delivered flush.past earlier
  /-- The batches of a flush are delivered one after the other, in the order of the queue. -/
  ordered : ∀ flush : HandledFlush start events,
    flush.batches.flatten = flush.found.service.queue.items ∧
      effects.flatMap (Effect.workOf flush.task) <+:
        flush.batches.flatMap (delivery flush.task)

theorem flush_barrier {capacity batchSize : Nat} {policy : Overflow} {interval : Span}
    {events : List Event} {system : System} {effects : List Effect}
    (run : (System.start capacity policy batchSize interval).run? events =
      some (system, effects)) :
    FlushBarrier (System.start capacity policy batchSize interval) events effects := by
  refine ⟨?_, ?_, fun flush => ⟨Service.flatten_flush _, ?_⟩⟩
  · rintro earlier request count later rfl
    obtain ⟨flush, asked, size, before, delivered⟩ := delivered_of_answer run
    exact ⟨flush, asked, size, before, flush.releases_effects, delivered⟩
  · rintro flush earlier batch later rfl
    exact delivered_of_begun flush run
  · have work := (Ledger.of_run run).2.work_begins flush.task
    rwa [flush.formedFor_effects run (Nat.le_refl _), flush.formedFor_task] at work

/-- Two flushes that overlap, the first of them behind a batch that the timer has taken. -/
def overlapping : List Event :=
  [.send (.enqueue (.ofMessage .info "first" ⟨0, 0⟩)),
    .send (.enqueue (.ofMessage .warn "second" ⟨1, 0⟩)), .send (.flush 0),
    .send (.enqueue (.ofMessage .info "third" ⟨2, 0⟩)), .send (.flush 1),
    .handle ⟨0⟩, .fire ⟨5⟩, .handle ⟨6⟩, .handle ⟨7⟩, .handle ⟨8⟩, .handle ⟨9⟩,
    .begin 0, .deliver 0, .finish 0, .begin 1, .deliver 1, .finish 1, .begin 2, .deliver 2,
    .finish 2]

theorem flush_barrier_overlapping :
    ∃ system effects,
      (System.start 8 .dropNewest 4 ⟨5⟩).run? overlapping = some (system, effects) ∧
        effects.flatMap Effect.answers = [(0, .flushed 1), (1, .flushed 1)] ∧
        FlushBarrier (System.start 8 .dropNewest 4 ⟨5⟩) overlapping effects := by
  have ran : ((System.start 8 .dropNewest 4 ⟨5⟩).run? overlapping).map
      (fun result => result.2.flatMap Effect.answers) =
        some [(0, .flushed 1), (1, .flushed 1)] := by
    decide +kernel
  obtain ⟨⟨system, effects⟩, run, answers⟩ := Option.map_eq_some_iff.mp ran
  exact ⟨system, effects, run, answers, flush_barrier run⟩

end FeedMonitor.Delivery
