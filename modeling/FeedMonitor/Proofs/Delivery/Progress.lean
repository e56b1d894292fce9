import FeedMonitor.Proofs.Delivery.Tasks

/-!
The tasks of a delivery system can always be brought to their end.

A task waits for tasks with smaller numbers only, so among those that have not ended the one with the
least number waits for none. A system that drains can therefore stop.
-/

namespace FeedMonitor.Delivery.System

def CanReach (system next : System) : Prop :=
  ∃ events effects, system.run? events = some (next, effects)

theorem CanReach.refl (system : System) : system.CanReach system := ⟨[], [], rfl⟩

theorem CanReach.trans {system middle last : System} (first : system.CanReach middle)
    (second : middle.CanReach last) : system.CanReach last := by
  obtain ⟨earlier, effects, ran⟩ := first
  obtain ⟨later, more, ran'⟩ := second
  exact ⟨earlier ++ later, effects ++ more, run?_append.mpr ⟨middle, effects, more, ran, ran', rfl⟩⟩

theorem CanReach.of_step {system next : System} {event : Event} {effects : List Effect}
    (stepped : system.step? event = some (next, effects)) : system.CanReach next :=
  ⟨[event], effects ++ [], run?_cons.mpr ⟨next, effects, [], stepped, rfl, rfl⟩⟩

/-- Tasks wait for those that were started before them. -/
structure Backward (system : System) : Prop where
  inFlight : ∀ id ∈ system.inFlight, id < system.nextTask
  after : ∀ id task, system.task? id = some task → ∀ other ∈ task.after, other < id

namespace Backward

variable {system next : System}

theorem keep (backward : system.Backward) (inFlight : next.inFlight = system.inFlight)
    (numbers : next.nextTask = system.nextTask)
    (tasks : ∀ id task, next.task? id = some task →
      ∃ before, system.task? id = some before ∧ before.after = task.after) : next.Backward := by
  refine ⟨?_, ?_⟩
  · rw [inFlight, numbers]
    exact backward.inFlight
  · intro id task found
    obtain ⟨before, held, same⟩ := tasks id task found
    rw [← same]
    exact backward.after id before held

theorem putTask (backward : system.Backward) {id : Nat} {task changed : Task}
    (found : system.task? id = some task) (named : changed.id = task.id)
    (after : changed.after = task.after) : (system.putTask changed).Backward := by
  refine backward.keep rfl rfl fun other later held => ?_
  rw [task?_putTask_of_task? found named] at held
  split at held
  · rename_i here
    cases held
    exact ⟨task, here ▸ found, after.symm⟩
  · exact ⟨later, held, rfl⟩

theorem step {event : Event} {effects : List Effect} (backward : system.Backward)
    (step : system.Step event next effects) : next.Backward := by
  cases step with
  | flush now running waiting flushed =>
    refine ⟨fun id member => ?_, fun id task found other member => ?_⟩
    · rw [List.mem_singleton.mp member]
      exact Nat.lt_succ_self _
    · rcases task?_of_addTask found with before | ⟨same, rfl⟩
      · exact backward.after id task before other member
      · rw [← same]
        exact backward.inFlight other member
  | fire now running set fired =>
    refine ⟨fun id member => ?_, fun id task found other member => ?_⟩
    · rcases List.mem_append.mp member with before | new
      · exact Nat.lt_succ_of_lt (backward.inFlight id before)
      · rw [List.mem_singleton.mp new]
        exact Nat.lt_succ_self _
    · rcases task?_of_addTask found with before | ⟨-, rfl⟩
      · exact backward.after id task before other member
      · contradiction
  | begin found free next ended => exact backward.putTask found rfl rfl
  | deliver found busy => exact backward.putTask found rfl rfl
  | finish found free done ended =>
    refine backward.keep rfl rfl fun other task held => ?_
    rw [task?_finish_of_task? found] at held
    split at held
    · contradiction
    · exact ⟨task, held, rfl⟩
  | _ => exact backward.keep rfl rfl fun _ task found => ⟨task, found, rfl⟩

theorem of_run {capacity batchSize : Nat} {policy : Overflow} {interval : Span}
    {events : List Event} {effects : List Effect}
    (run : (System.start capacity policy batchSize interval).run? events =
      some (system, effects)) : system.Backward :=
  run?_induction (fun _ system _ => system.Backward)
    ⟨fun _ member => (List.not_mem_nil member).elim, fun _ _ found => by cases found⟩
    (fun _ _ _ _ _ _ backward _ step => backward.step step) run

end Backward

/-- A system that lacks one task and is otherwise as before, as far as tasks are concerned. -/
structure Without (id : Nat) (system next : System) : Prop where
  reached : system.CanReach next
  phase : next.phase = system.phase
  inFlight : next.inFlight = system.inFlight
  task : ∀ other, next.task? other = if other = id then none else system.task? other

theorem Without.of_putTask {system last : System} {id : Nat} {task changed : Task} {event : Event}
    {effects : List Effect} (found : system.task? id = some task) (named : changed.id = task.id)
    (stepped : system.step? event = some (system.putTask changed, effects))
    (without : Without id (system.putTask changed) last) : Without id system last := by
  refine ⟨(CanReach.of_step stepped).trans without.reached, without.phase, without.inFlight,
    fun other => ?_⟩
  rw [without.task, task?_putTask_of_task? found named]
  split <;> rfl

/-- A task that waits for none can deliver what it has left and end. -/
theorem exists_without {system : System} {id : Nat} {task : Task}
    (found : system.task? id = some task) (ended : system.haveEnded task.after) :
    ∃ last, Without id system last := by
  -- Each step that is not the last takes one effect off what remains.
  induction left : task.remaining.length generalizing system task with
  | zero =>
    cases current : task.current with
    | some batch => simp [Task.remaining, current] at left
    | none =>
      cases batches : task.batches with
      | cons batch rest => simp [Task.remaining, current, batches, delivery] at left
      | nil =>
        have stepped : system.step? (.finish id) = some (system.finish task) := by
          simp [step?, found, current, batches, ended]
        exact ⟨_, CanReach.of_step stepped, rfl, rfl, task?_finish_of_task? found⟩
  | succ count ih =>
    have next {changed : Task} {event : Event} {effects : List Effect}
        (stepped : system.step? event = some (system.putTask changed, effects))
        (named : changed.id = task.id) (after : changed.after = task.after)
        (less : changed.remaining.length = count) : ∃ last, Without id system last := by
      have held := task?_putTask_of_task? found named id
      rw [if_pos rfl] at held
      have still : (system.putTask changed).haveEnded changed.after := by
        rw [after]
        simpa only [haveEnded, isLive_putTask_of_task? found named] using ended
      obtain ⟨last, without⟩ := ih held still less
      exact ⟨last, without.of_putTask found named stepped⟩
    cases current : task.current with
    | some batch =>
      have stepped : system.step? (.deliver id) =
          some (system.putTask { task with current := none }, [.delivered id batch]) := by
        simp [step?, found, current]
      refine next stepped rfl rfl ?_
      simpa [Task.remaining, current] using left
    | none =>
      cases batches : task.batches with
      | nil => simp [Task.remaining, current, batches] at left
      | cons batch rest =>
        have stepped : system.step? (.begin id) =
            some (system.putTask { task with current := some batch, batches := rest },
              [.begun id batch]) := by
          simp [step?, found, current, batches, ended]
        refine next stepped rfl rfl ?_
        simp only [Task.remaining, current, batches, List.flatMap_cons, delivery,
          List.length_append, List.length_cons, Option.toList_none, List.map_nil,
          List.length_nil] at left
        simp only [Task.remaining, Option.toList_some, List.map_cons, List.map_nil,
          List.length_append, List.length_cons, List.length_nil]
        omega

/-- The tasks below a number can end, one after the other. -/
theorem exists_ended {system : System} (backward : system.Backward) (bound : Nat) :
    ∃ last, system.CanReach last ∧ last.phase = system.phase ∧ last.inFlight = system.inFlight ∧
      ∀ id, last.task? id = if id < bound then none else system.task? id := by
  induction bound with
  | zero => exact ⟨system, .refl system, rfl, rfl, fun id => by simp⟩
  | succ bound ih =>
    obtain ⟨middle, reached, phase, inFlight, tasks⟩ := ih
    have same := tasks bound
    rw [if_neg (Nat.lt_irrefl bound)] at same
    cases found : system.task? bound with
    | none =>
      refine ⟨middle, reached, phase, inFlight, fun id => ?_⟩
      rw [tasks]
      by_cases here : id = bound
      · simp [here, found]
      · have split : id < bound + 1 ↔ id < bound := by omega
        simp only [split]
    | some task =>
      have ended : middle.haveEnded task.after := by
        refine List.all_eq_true.mpr fun other member => ?_
        have below := backward.after bound task found other member
        simp [isLive, tasks, below]
      obtain ⟨last, without⟩ := exists_without (same.trans found) ended
      refine ⟨last, reached.trans without.reached, without.phase.trans phase,
        without.inFlight.trans inFlight, fun id => ?_⟩
      rw [without.task, tasks]
      by_cases here : id = bound
      · simp [here]
      · have split : id < bound + 1 ↔ id < bound := by omega
        simp only [here, if_false, split]

theorem exists_stopped {system : System} (chained : system.Chained) (backward : system.Backward)
    (draining : system.phase = .draining) :
    ∃ last, system.CanReach last ∧ last.phase = .stopped := by
  obtain ⟨middle, reached, phase, -, tasks⟩ := exists_ended backward system.nextTask
  have ended : middle.haveEnded middle.inFlight := by
    refine List.all_eq_true.mpr fun id _ => ?_
    rw [isLive, tasks]
    split
    · rfl
    · rename_i above
      simpa [isLive] using chained.isLive_of_le (Nat.not_lt.mp above)
  have stepped : middle.step? .stop = some ({ middle with phase := .stopped, inbox := [] },
      (middle.inbox.filterMap Command.request?).map .lost) := by
    simp [step?, phase, draining, ended]
  exact ⟨_, reached.trans (CanReach.of_step stepped), rfl⟩

end FeedMonitor.Delivery.System
