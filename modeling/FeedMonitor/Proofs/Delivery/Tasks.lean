import FeedMonitor.Proofs.Delivery.History
import FeedMonitor.Proofs.Delivery.Run

/-!
The tasks of a delivery system: which of them wait for which, and what they do to the sink.

A flush waits for the tasks that were in flight, and those that were started before them need not
be among these: an earlier flush waits for them. So a task is waited for by way of any number of
flushes.
-/

namespace FeedMonitor.Delivery

namespace System

/-- Each task below `bound` that has not ended is one of `ids`, or a later flush is one of them. -/
def Covers (system : System) (ids : List Nat) (bound : Nat) : Prop :=
  ∀ id < bound, system.isLive id → id ∈ ids ∨
    ∃ later ∈ ids, id < later ∧ ∃ task, system.task? later = some task ∧ task.reply.isSome

theorem isLive_of_haveEnded {system : System} {ids : List Nat} {id : Nat}
    (ended : system.haveEnded ids) (member : id ∈ ids) : system.isLive id = false := by
  simpa using List.all_eq_true.mp ended id member

theorem isLive_addTask (system : System) (after : List Nat) (batches : List (List Record))
    (reply : Option (Nat × Nat)) (id : Nat) :
    (system.addTask after batches reply).isLive id =
      (system.isLive id || system.nextTask == id) := by
  rw [isLive, task?_addTask, Option.isSome_or]
  split <;> simp_all [isLive]

theorem task?_of_addTask {system : System} {after : List Nat} {batches : List (List Record)}
    {reply : Option (Nat × Nat)} {id : Nat} {task : Task}
    (found : (system.addTask after batches reply).task? id = some task) :
    system.task? id = some task ∨
      system.nextTask = id ∧ task = ⟨system.nextTask, after, batches, none, reply⟩ := by
  rw [task?_addTask] at found
  cases old : system.task? id with
  | some other =>
    rw [old, Option.some_or] at found
    exact .inl found
  | none =>
    rw [old, Option.none_or] at found
    split at found
    · exact .inr ⟨‹_›, (Option.some.inj found).symm⟩
    · contradiction

theorem task?_putTask_of_task? {system : System} {id : Nat} {task changed : Task}
    (found : system.task? id = some task) (named : changed.id = task.id) (other : Nat) :
    (system.putTask changed).task? other =
      if other = id then some changed else system.task? other := by
  rw [task?_putTask, named, id_of_task? found]
  split
  · rename_i here
    rw [here, found, Option.map_some]
  · rfl

theorem isLive_putTask_of_task? {system : System} {id : Nat} {task changed : Task}
    (found : system.task? id = some task) (named : changed.id = task.id) (other : Nat) :
    (system.putTask changed).isLive other = system.isLive other := by
  rw [isLive, task?_putTask_of_task? found named]
  split
  · rename_i here
    rw [here, isLive_of_task? found, Option.isSome_some]
  · rfl

theorem task?_finish_of_task? {system : System} {id : Nat} {task : Task}
    (found : system.task? id = some task) (other : Nat) :
    (system.finish task).1.task? other = if other = id then none else system.task? other := by
  rw [task?_finish, id_of_task? found]

namespace Covers

variable {system next : System} {ids : List Nat} {bound : Nat}

theorem ended (covers : system.Covers ids bound) (ended : system.haveEnded ids) {id : Nat}
    (below : id < bound) : system.isLive id = false := by
  by_contra live
  rcases covers id below (by simpa using live) with member | ⟨later, member, -, task, found, -⟩
  · exact live (isLive_of_haveEnded ended member)
  · have gone := isLive_of_haveEnded ended member
    rw [isLive_of_task? found] at gone
    contradiction

theorem append (covers : system.Covers ids bound) (more : List Nat) :
    system.Covers (ids ++ more) bound := by
  intro id below live
  rcases covers id below live with member | ⟨later, member, flush⟩
  · exact .inl (List.mem_append_left _ member)
  · exact .inr ⟨later, List.mem_append_left _ member, flush⟩

theorem transfer (covers : system.Covers ids bound)
    (live : ∀ id < bound, next.isLive id → system.isLive id)
    (kept : ∀ id task, system.task? id = some task → task.reply.isSome →
      ∃ task, next.task? id = some task ∧ task.reply.isSome) : next.Covers ids bound := by
  intro id below lives
  rcases covers id below (live id below lives) with
    member | ⟨later, member, less, task, found, flush⟩
  · exact .inl member
  · exact .inr ⟨later, member, less, kept later task found flush⟩

/-- What held before a task was added still holds. -/
theorem addTask {after ids : List Nat} {batches : List (List Record)}
    {reply : Option (Nat × Nat)} {bound : Nat} (covers : system.Covers ids bound)
    (below : bound ≤ system.nextTask) :
    (system.addTask after batches reply).Covers ids bound := by
  refine covers.transfer (fun id less live => ?_) fun id task found flush => ?_
  · rw [isLive_addTask] at live
    have other : (system.nextTask == id) = false := by
      simpa using fun same : system.nextTask = id => by omega
    simpa [other] using live
  · exact ⟨task, by rw [task?_addTask, found, Option.some_or], flush⟩

end Covers

/-- Tasks wait for all that were started before them and have not ended, as far as they wait. -/
structure Chained (system : System) : Prop where
  numbered : ∀ id, system.isLive id → id < system.nextTask
  inFlight : system.Covers system.inFlight system.nextTask
  after : ∀ id task, system.task? id = some task → task.reply.isSome →
    system.Covers task.after id

namespace Chained

variable {system : System}

theorem isLive_of_le (chained : system.Chained) {id : Nat} (above : system.nextTask ≤ id) :
    system.isLive id = false :=
  Bool.eq_false_iff.mpr fun live => Nat.not_lt.mpr above (chained.numbered id live)

theorem task?_nextTask (chained : system.Chained) : system.task? system.nextTask = none :=
  Option.isNone_iff_eq_none.mp
    (Option.isSome_eq_false_iff.mp (chained.isLive_of_le (Nat.le_refl _)))

/-- When the tasks that the end waits for have ended, no task is left. -/
theorem isLive_of_haveEnded_inFlight (chained : system.Chained)
    (ended : system.haveEnded system.inFlight) (id : Nat) : system.isLive id = false := by
  by_cases known : id < system.nextTask
  · exact chained.inFlight.ended ended known
  · exact chained.isLive_of_le (Nat.not_lt.mp known)

theorem numbered_addTask (chained : system.Chained) {after : List Nat}
    {batches : List (List Record)} {reply : Option (Nat × Nat)} {id : Nat}
    (live : (system.addTask after batches reply).isLive id) : id < system.nextTask + 1 := by
  rw [isLive_addTask, Bool.or_eq_true] at live
  rcases live with live | same
  · exact Nat.lt_succ_of_lt (chained.numbered id live)
  · simp at same
    omega

theorem flush (chained : system.Chained) (taken : List (List Record)) (reply : Nat × Nat) :
    Chained { system.addTask system.inFlight taken (some reply) with
      inFlight := [system.nextTask] } where
  numbered _ live := chained.numbered_addTask live
  inFlight := by
    intro id below live
    by_cases same : id = system.nextTask
    · exact .inl (by simp [same])
    · have less : id < system.nextTask + 1 := below
      have added := task?_addTask system system.inFlight taken (some reply) system.nextTask
      rw [chained.task?_nextTask, if_pos rfl, Option.none_or] at added
      exact .inr ⟨system.nextTask, by simp, by omega, _, added, rfl⟩
  after := by
    intro id task found flush
    rcases task?_of_addTask found with old | ⟨same, rfl⟩
    · exact (chained.after id task old flush).addTask
        (Nat.le_of_lt (chained.numbered id (isLive_of_task? old)))
    · subst same
      exact chained.inFlight.addTask (Nat.le_refl _)

theorem fire (chained : system.Chained) (batch : List Record) :
    Chained { system.addTask [] [batch] none with
      inFlight := system.inFlight ++ [system.nextTask] } where
  numbered _ live := chained.numbered_addTask live
  inFlight := by
    intro id below live
    by_cases same : id = system.nextTask
    · exact .inl (by simp [same])
    · have less : id < system.nextTask + 1 := below
      exact ((chained.inFlight.addTask (Nat.le_refl _)).append _) id (by omega) live
  after := by
    intro id task found flush
    rcases task?_of_addTask found with old | ⟨-, rfl⟩
    · exact (chained.after id task old flush).addTask
        (Nat.le_of_lt (chained.numbered id (isLive_of_task? old)))
    · contradiction

theorem putTask (chained : system.Chained) {id : Nat} {task changed : Task}
    (found : system.task? id = some task) (named : changed.id = task.id)
    (after : changed.after = task.after) (reply : changed.reply = task.reply) :
    (system.putTask changed).Chained := by
  have same := task?_putTask_of_task? found named
  have live := isLive_putTask_of_task? found named
  have covers {ids : List Nat} {bound : Nat} (before : system.Covers ids bound) :
      (system.putTask changed).Covers ids bound := by
    refine before.transfer (fun other _ lives => live other ▸ lives)
      fun other task' held flush => ?_
    rw [same]
    split
    · rename_i here
      rw [here, found] at held
      cases held
      exact ⟨changed, rfl, reply ▸ flush⟩
    · exact ⟨task', held, flush⟩
  refine ⟨fun other lives => chained.numbered other (live other ▸ lives), covers chained.inFlight,
    fun other task' held flush => ?_⟩
  rw [same] at held
  split at held
  · rename_i here
    cases held
    rw [after, here]
    exact covers (chained.after id task found (reply ▸ flush))
  · exact covers (chained.after other task' held flush)

/-- A flush that ends leaves no task before it, so that nobody has to wait for it any longer. -/
theorem finish (chained : system.Chained) {id : Nat} {task : Task}
    (found : system.task? id = some task) (ended : system.haveEnded task.after) :
    (system.finish task).1.Chained := by
  have same := task?_finish_of_task? found
  have live {other : Nat} (lives : (system.finish task).1.isLive other) :
      system.isLive other ∧ other ≠ id := by
    rw [isLive, same] at lives
    split at lives
    · contradiction
    · exact ⟨lives, ‹_›⟩
  have covers {ids : List Nat} {bound : Nat} (before : system.Covers ids bound) :
      (system.finish task).1.Covers ids bound := by
    intro other below lives
    obtain ⟨lived, differ⟩ := live lives
    rcases before other below lived with member | ⟨later, member, less, task', held, flush⟩
    · exact .inl member
    · refine .inr ⟨later, member, less, task', ?_, flush⟩
      rw [same, if_neg]
      · exact held
      · rintro rfl
        rw [found] at held
        cases held
        have gone := (chained.after later task found flush).ended ended less
        rw [lived] at gone
        contradiction
  refine ⟨fun other lives => chained.numbered other (live lives).1, covers chained.inFlight,
    fun other task' held flush => ?_⟩
  rw [same] at held
  split at held
  · contradiction
  · exact covers (chained.after other task' held flush)

/-- What the service has in its inbox and its queue does not matter. -/
theorem congr (chained : system.Chained) {next : System} (tasks : next.tasks = system.tasks)
    (inFlight : next.inFlight = system.inFlight) (numbers : next.nextTask = system.nextTask) :
    next.Chained := by
  cases next
  cases system
  cases tasks
  cases inFlight
  cases numbers
  exact ⟨chained.numbered, chained.inFlight, chained.after⟩

theorem step {next : System} {event : Event} {effects : List Effect} (chained : system.Chained)
    (step : system.Step event next effects) : next.Chained := by
  cases step with
  | @flush now request inbox taken service running next flushed =>
    have before : Chained { system with inbox, service } := chained.congr rfl rfl rfl
    exact before.flush taken (request, taken.flatten.length)
  | @fire now batch service journal running set fired =>
    have before : Chained { system with service } := chained.congr rfl rfl rfl
    exact before.fire batch
  | begin found free next ended => exact chained.putTask found rfl rfl rfl
  | deliver found busy => exact chained.putTask found rfl rfl rfl
  | finish found free done ended => exact chained.finish found ended
  | _ => exact chained.congr rfl rfl rfl

theorem start (capacity : Nat) (policy : Overflow) (batchSize : Nat) (interval : Span) :
    (System.start capacity policy batchSize interval).Chained where
  numbered _ live := by cases live
  inFlight _ _ live := by cases live
  after _ _ found _ := by cases found

end Chained

end System

/-! ### Numbers -/

namespace System

/-- Batches are formed for new tasks only. -/
theorem Step.formed {system next : System} {event : Event} {more : List Effect}
    (step : system.Step event next more) :
    system.nextTask ≤ next.nextTask ∧
      ∀ id < system.nextTask, more.flatMap (Effect.formedFor id) = [] := by
  cases step with
  | send command taken => exact ⟨Nat.le_refl _, fun _ _ => rfl⟩
  | enqueue now running next offered =>
    exact ⟨Nat.le_refl _, fun id _ => (Effect.blind_formedFor id).logs _⟩
  | flush now running next flushed =>
    refine ⟨Nat.le_succ _, fun id less => ?_⟩
    have differ : system.nextTask ≠ id := by omega
    simp [List.flatMap_map, Effect.formedFor, differ]
  | stats now running next => exact ⟨Nat.le_refl _, fun _ _ => rfl⟩
  | idle now running set fired =>
    exact ⟨Nat.le_refl _, fun id _ => (Effect.blind_formedFor id).logs _⟩
  | fire now running set fired =>
    refine ⟨Nat.le_succ _, fun id less => ?_⟩
    have differ : system.nextTask ≠ id := by omega
    simp [(Effect.blind_formedFor id).logs, Effect.formedFor, differ]
  | shutdown | leave =>
    exact ⟨Nat.le_refl _, fun id _ => (Effect.blind_formedFor id).flatMap (system.notes_drain _)⟩
  | stop draining ended =>
    exact ⟨Nat.le_refl _, fun id _ => (Effect.blind_formedFor id).flatMap (notes_lost _)⟩
  | begin | deliver => exact ⟨Nat.le_refl _, fun _ _ => rfl⟩
  | finish found free done ended =>
    exact ⟨Nat.le_refl _, fun id _ => (Effect.blind_formedFor id).flatMap (notes_finish _ _)⟩

theorem reply_of_putTask {system : System} {id other : Nat} {task changed later : Task}
    (held : system.task? id = some task)
    (found : (system.putTask changed).task? other = some later) (named : changed.id = task.id)
    (reply : changed.reply = task.reply) :
    ∃ before, system.task? other = some before ∧ before.reply = later.reply := by
  rw [task?_putTask_of_task? held named] at found
  split at found
  · rename_i same
    cases found
    exact ⟨task, same ▸ held, reply.symm⟩
  · exact ⟨later, found, rfl⟩

/-- A task answers the same request as long as it lasts. A new one has a new number, and if it is to
answer a request, then this is a flush that is handled now. -/
theorem Step.origin {system next : System} {event : Event} {more : List Effect}
    (step : system.Step event next more) {id : Nat} {task : Task}
    (found : next.task? id = some task) :
    (∃ before, system.task? id = some before ∧ before.reply = task.reply) ∨
      (id = system.nextTask ∧ ∀ request count, task.reply = some (request, count) →
        ∃ now, event = .handle now ∧ system.phase = .running ∧
          system.inbox.head? = some (.flush request) ∧ system.service.queue.size = count) := by
  cases step with
  | flush now running waiting flushed =>
    rcases task?_of_addTask found with before | ⟨same, rfl⟩
    · exact .inl ⟨task, before, rfl⟩
    · refine .inr ⟨same.symm, fun request count reply => ?_⟩
      obtain ⟨rfl, rfl⟩ := Prod.mk.inj (Option.some.inj reply)
      have taken := system.service.flatten_flush
      rw [flushed] at taken
      exact ⟨now, rfl, running, by rw [waiting, List.head?_cons], by rw [taken, Queue.size]⟩
  | fire now running set fired =>
    rcases task?_of_addTask found with before | ⟨same, rfl⟩
    · exact .inl ⟨task, before, rfl⟩
    · refine .inr ⟨same.symm, fun request count reply => ?_⟩
      contradiction
  | begin held free next ended => exact .inl (reply_of_putTask held found rfl rfl)
  | deliver held busy => exact .inl (reply_of_putTask held found rfl rfl)
  | finish held free done ended =>
    rw [task?_finish_of_task? held] at found
    split at found
    · contradiction
    · exact .inl ⟨task, found, rfl⟩
  | _ => exact .inl ⟨task, found, rfl⟩

/-- What a run does for tasks that it has found. -/
theorem run?_numbers {start system : System} {events : List Event} {effects : List Effect}
    (run : start.run? events = some (system, effects)) :
    start.nextTask ≤ system.nextTask ∧
      (∀ id < start.nextTask, effects.flatMap (Effect.formedFor id) = []) ∧
      ∀ id < start.nextTask, ∀ task, system.task? id = some task →
        ∃ before, start.task? id = some before ∧ before.reply = task.reply := by
  refine run?_induction
    (fun _ system effects => start.nextTask ≤ system.nextTask ∧
      (∀ id < start.nextTask, effects.flatMap (Effect.formedFor id) = []) ∧
      ∀ id < start.nextTask, ∀ task, system.task? id = some task →
        ∃ before, start.task? id = some before ∧ before.reply = task.reply)
    ⟨Nat.le_refl _, fun _ _ => rfl, fun _ _ task found => ⟨task, found, rfl⟩⟩ ?_ run
  rintro events system effects event next more ⟨numbers, formed, reply⟩ - step
  obtain ⟨numbers', formed'⟩ := step.formed
  refine ⟨Nat.le_trans numbers numbers', fun id less => ?_, fun id less task found => ?_⟩
  · rw [List.flatMap_append, formed id less, formed' id (by omega), List.nil_append]
  · rcases step.origin found with ⟨middle, held, same⟩ | ⟨new, -⟩
    · obtain ⟨before, first, same'⟩ := reply id less middle held
      exact ⟨before, first, same'.trans same⟩
    · omega

end System

/-! ### Work -/

/-- What a task does to the sink with one batch. -/
def delivery (task : Nat) (batch : List Record) : List Effect :=
  [.begun task batch, .delivered task batch]

/-- What a task has still to do. -/
def Task.remaining (task : Task) : List Effect :=
  task.current.toList.map (.delivered task.id) ++ task.batches.flatMap (delivery task.id)

def System.remaining (system : System) (id : Nat) : List Effect :=
  (system.task? id).elim [] Task.remaining

/-- Each batch formed for a task has been delivered or will be, one after the other. -/
structure Ledger (system : System) (effects : List Effect) : Prop where
  work : ∀ id, effects.flatMap (Effect.workOf id) ++ system.remaining id =
    (effects.flatMap (Effect.formedFor id)).flatMap (delivery id)
  fresh : ∀ id, system.nextTask ≤ id → effects.flatMap (Effect.formedFor id) = []

namespace Ledger

variable {system : System} {effects : List Effect}

theorem append (ledger : Ledger system effects) {next : System} {more : List Effect}
    (work : ∀ id, more.flatMap (Effect.workOf id) ++ next.remaining id =
      system.remaining id ++ (more.flatMap (Effect.formedFor id)).flatMap (delivery id))
    (fresh : ∀ id, next.nextTask ≤ id →
      system.nextTask ≤ id ∧ more.flatMap (Effect.formedFor id) = []) :
    Ledger next (effects ++ more) where
  work id := by
    rw [List.flatMap_append, List.flatMap_append, List.flatMap_append, List.append_assoc, work,
      ← List.append_assoc, ledger.work]
  fresh id bound := by
    obtain ⟨before, none⟩ := fresh id bound
    rw [List.flatMap_append, ledger.fresh id before, none, List.append_nil]

theorem keep (ledger : Ledger system effects) {next : System} {more : List Effect}
    (remaining : ∀ id, next.remaining id = system.remaining id)
    (numbers : next.nextTask = system.nextTask)
    (work : ∀ id, more.flatMap (Effect.workOf id) = [])
    (formed : ∀ id, more.flatMap (Effect.formedFor id) = []) : Ledger next (effects ++ more) :=
  ledger.append (fun id => by rw [work, formed, remaining]; simp)
    fun id bound => ⟨numbers ▸ bound, formed id⟩

theorem notes (ledger : Ledger system effects) {next : System} {more : List Effect}
    (tasks : next.tasks = system.tasks) (numbers : next.nextTask = system.nextTask)
    (notes : ∀ effect ∈ more, effect.IsNote) : Ledger next (effects ++ more) := by
  refine ledger.keep (fun id => ?_) numbers (fun id => (Effect.blind_workOf id).flatMap notes)
    fun id => (Effect.blind_formedFor id).flatMap notes
  simp only [System.remaining, System.task?, tasks]

theorem addTask (ledger : Ledger system effects) (chained : system.Chained) {next : System}
    {after : List Nat} {taken : List (List Record)} {reply : Option (Nat × Nat)}
    {more : List Effect}
    (tasks : next.tasks = (system.addTask after taken reply).tasks)
    (numbers : next.nextTask = system.nextTask + 1)
    (work : ∀ id, more.flatMap (Effect.workOf id) = [])
    (formed : ∀ id, more.flatMap (Effect.formedFor id) =
      if system.nextTask = id then taken else []) : Ledger next (effects ++ more) := by
  refine ledger.append (fun id => ?_) fun id bound => ⟨by omega, ?_⟩
  · have remaining : next.remaining id = ((system.addTask after taken reply).task? id).elim []
        Task.remaining := by
      simp only [System.remaining, System.task?, tasks]
    rw [work, formed, remaining, System.task?_addTask, List.nil_append, System.remaining]
    split
    · rename_i same
      rw [← same, chained.task?_nextTask]
      rfl
    · simp
  · rw [formed, if_neg (by omega)]

theorem putTask (ledger : Ledger system effects) {id : Nat} {task changed : Task}
    (found : system.task? id = some task) (named : changed.id = task.id) {more : List Effect}
    (work : ∀ other, more.flatMap (Effect.workOf other) = if id = other then more else [])
    (formed : ∀ other, more.flatMap (Effect.formedFor other) = [])
    (done : more ++ changed.remaining = task.remaining) :
    Ledger (system.putTask changed) (effects ++ more) := by
  refine ledger.append (fun other => ?_) fun other bound => ⟨bound, formed other⟩
  rw [work, formed, List.flatMap_nil, List.append_nil, System.remaining, System.remaining,
    System.task?_putTask_of_task? found named]
  split
  · rename_i same
    subst same
    rw [if_pos rfl, found]
    exact done
  · rename_i differ
    rw [if_neg fun same => differ same.symm, List.nil_append]

theorem finish (ledger : Ledger system effects) {id : Nat} {task : Task}
    (found : system.task? id = some task) (free : task.current = none)
    (done : task.batches = []) :
    Ledger (system.finish task).1 (effects ++ (system.finish task).2) := by
  have notes := system.notes_finish task
  refine ledger.keep (fun other => ?_) rfl (fun other => (Effect.blind_workOf other).flatMap notes)
    fun other => (Effect.blind_formedFor other).flatMap notes
  rw [System.remaining, System.remaining, System.task?_finish_of_task? found]
  split
  · rename_i same
    rw [same, found]
    simp [Task.remaining, free, done]
  · rfl

theorem step {next : System} {event : Event} {more : List Effect}
    (ledger : Ledger system effects) (chained : system.Chained)
    (step : system.Step event next more) : Ledger next (effects ++ more) := by
  cases step with
  | send command taken => exact ledger.notes rfl rfl (by simp)
  | enqueue now running next offered =>
    exact ledger.keep (fun _ => rfl) rfl
      (fun id => by simp [(Effect.blind_workOf id).logs, Effect.workOf])
      fun id => by simp [(Effect.blind_formedFor id).logs, Effect.formedFor]
  | @flush now request inbox taken service running next flushed =>
    refine ledger.addTask chained rfl rfl (fun id => ?_) fun id => ?_
    · simp [List.flatMap_map, Effect.workOf]
    · simp only [List.flatMap_map, Effect.formedFor]
      split <;> simp [List.flatMap_singleton']
  | stats now running next => exact ledger.notes rfl rfl (by simp [Effect.IsNote])
  | shutdown now running next => exact ledger.notes rfl rfl (system.notes_drain _)
  | idle now running set fired => exact ledger.notes rfl rfl (System.notes_logs _)
  | @fire now batch service journal running set fired =>
    refine ledger.addTask chained rfl rfl (fun id => ?_) fun id => ?_
    · simp [(Effect.blind_workOf id).logs, Effect.workOf]
    · simp [(Effect.blind_formedFor id).logs, Effect.formedFor]
  | leave running empty => exact ledger.notes rfl rfl (system.notes_drain _)
  | stop draining ended => exact ledger.notes rfl rfl (System.notes_lost _)
  | begin found free next ended =>
    refine ledger.putTask found ?_ (fun other => ?_) (fun other => ?_) ?_
    · rfl
    · simp only [List.flatMap_singleton, Effect.workOf]
    · rfl
    · simp [Task.remaining, free, next, delivery, System.id_of_task? found]
  | deliver found busy =>
    refine ledger.putTask found ?_ (fun other => ?_) (fun other => ?_) ?_
    · rfl
    · simp only [List.flatMap_singleton, Effect.workOf]
    · rfl
    · simp [Task.remaining, busy, System.id_of_task? found]
  | finish found free done ended => exact ledger.finish found free done

theorem start (capacity : Nat) (policy : Overflow) (batchSize : Nat) (interval : Span) :
    Ledger (System.start capacity policy batchSize interval) [] := ⟨fun _ => rfl, fun _ _ => rfl⟩

theorem of_run {capacity batchSize : Nat} {policy : Overflow} {interval : Span}
    {events : List Event}
    (run : (System.start capacity policy batchSize interval).run? events =
      some (system, effects)) : system.Chained ∧ Ledger system effects :=
  System.run?_induction (fun _ system effects => system.Chained ∧ Ledger system effects)
    ⟨.start .., start ..⟩
    (fun _ _ _ _ _ _ both _ step => ⟨both.1.step step, both.2.step both.1 step⟩) run

theorem work_begins (ledger : Ledger system effects) (id : Nat) :
    effects.flatMap (Effect.workOf id) <+:
      (effects.flatMap (Effect.formedFor id)).flatMap (delivery id) := ⟨_, ledger.work id⟩

end Ledger

/-- Deliveries are seen in the work of a task. -/
theorem flatMap_deliveredBy (task : Nat) (effects : List Effect) :
    (effects.flatMap (Effect.workOf task)).flatMap (Effect.deliveredBy task) =
      effects.flatMap (Effect.deliveredBy task) := by
  rw [List.flatMap_assoc]
  congr 1
  funext effect
  cases effect with
  | begun other batch =>
    simp only [Effect.workOf]
    split <;> simp [Effect.deliveredBy]
  | delivered other batch =>
    simp only [Effect.workOf]
    split <;> simp [Effect.deliveredBy, *]
  | _ => rfl

/-- A task that has nothing left to do has delivered all its batches. -/
theorem Ledger.deliveredBy_eq {system : System} {effects : List Effect}
    (ledger : Ledger system effects) {id : Nat} (done : system.remaining id = []) :
    effects.flatMap (Effect.deliveredBy id) = effects.flatMap (Effect.formedFor id) := by
  have work := ledger.work id
  rw [done, List.append_nil] at work
  rw [← flatMap_deliveredBy, work, List.flatMap_assoc]
  simp [delivery, Effect.deliveredBy]

theorem System.remaining_of_ended {system : System} {id : Nat} (ended : system.isLive id = false) :
    system.remaining id = [] := by
  rw [remaining, Option.isNone_iff_eq_none.mp (Option.isSome_eq_false_iff.mp ended)]
  rfl

end FeedMonitor.Delivery
