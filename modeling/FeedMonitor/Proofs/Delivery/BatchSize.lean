import FeedMonitor.Proofs.Delivery.Tasks

/-!
No batch is empty, and none is larger than the batch size, wherever it is seen.

Both ways to form a batch keep to the size of the service, which never changes, and a task delivers
what was formed for it.
-/

namespace FeedMonitor.Delivery

/-- The batch that an effect forms or hands over. -/
def Effect.carried? : Effect → Option (List Record)
  | .formed _ batch | .begun _ batch | .delivered _ batch => some batch
  | .log _ | .offered _ _ | .answered _ _ | .lost _ => none

theorem mem_formedFor {task : Nat} {batch : List Record} {effects : List Effect} :
    batch ∈ effects.flatMap (Effect.formedFor task) ↔ .formed task batch ∈ effects := by
  rw [List.mem_flatMap]
  constructor
  · rintro ⟨effect, member, formed⟩
    cases effect with
    | formed other kept =>
      rw [Effect.formedFor] at formed
      split at formed
      · rename_i same
        rw [List.mem_singleton] at formed
        rw [← same, formed]
        exact member
      · contradiction
    | _ => contradiction
  · intro member
    exact ⟨_, member, by simp [Effect.formedFor]⟩

theorem mem_workOf {task : Nat} {batch : List Record} {effects : List Effect}
    (member : .begun task batch ∈ effects ∨ .delivered task batch ∈ effects) :
    .begun task batch ∈ effects.flatMap (Effect.workOf task) ∨
      .delivered task batch ∈ effects.flatMap (Effect.workOf task) := by
  rcases member with begun | delivered
  · exact .inl (List.mem_flatMap.mpr ⟨_, begun, by simp [Effect.workOf]⟩)
  · exact .inr (List.mem_flatMap.mpr ⟨_, delivered, by simp [Effect.workOf]⟩)

/-- What is handed over was formed for the same task. -/
theorem Ledger.formed_of_work {system : System} {effects : List Effect}
    (ledger : Ledger system effects) {task : Nat} {batch : List Record}
    (member : .begun task batch ∈ effects ∨ .delivered task batch ∈ effects) :
    .formed task batch ∈ effects := by
  have listed := ledger.work_begins task
  have work (effect : Effect) (done : effect ∈ effects.flatMap (Effect.workOf task)) :
      ∃ kept ∈ effects.flatMap (Effect.formedFor task), effect ∈ delivery task kept :=
    List.mem_flatMap.mp (listed.subset done)
  rcases mem_workOf member with begun | delivered
  · obtain ⟨kept, formed, same⟩ := work _ begun
    obtain rfl : batch = kept := by simpa [delivery] using same
    exact mem_formedFor.mp formed
  · obtain ⟨kept, formed, same⟩ := work _ delivered
    obtain rfl : batch = kept := by simpa [delivery] using same
    exact mem_formedFor.mp formed

namespace System

theorem Step.sized {system next : System} {event : Event} {effects : List Effect} {task : Nat}
    {batch : List Record} (step : Step system event next effects)
    (member : .formed task batch ∈ effects) :
    0 < batch.length ∧ batch.length ≤ system.service.batchSize := by
  cases step with
  | @flush now request inbox taken service running waiting flushed =>
    obtain ⟨kept, formed, same⟩ := List.mem_map.mp member
    cases same
    have batches : system.service.flush.1 = taken := congrArg Prod.fst flushed
    rw [← batches] at formed
    exact mem_batches formed
  | @fire now kept service journal running set fired =>
    obtain ⟨waiting, taken, -⟩ := Service.fire_eq_some fired
    have same : task = system.nextTask ∧ batch = kept := by simpa [logs] using member
    have head := List.length_pos_iff.mpr waiting
    have sized := system.service.sized
    rw [same.2, taken, List.length_take]
    omega
  | shutdown | leave =>
    unfold drain at member
    split at member <;> simp [serviceLine] at member
  | finish found free done ended =>
    unfold System.finish at member
    split at member <;> simp [serviceLine] at member
  | _ => simp [logs] at member

theorem batchSize_of_run {start system : System} {events : List Event} {effects : List Effect}
    (run : start.run? events = some (system, effects)) :
    system.service.batchSize = start.service.batchSize := by
  have settings := run?_settings run
  exact congrArg (fun settings => settings.2.2.1) settings

theorem formed_sized {start system : System} {events : List Event} {effects : List Effect}
    {task : Nat} {batch : List Record} (run : start.run? events = some (system, effects))
    (member : .formed task batch ∈ effects) :
    0 < batch.length ∧ batch.length ≤ start.service.batchSize := by
  obtain ⟨earlier, later, rfl⟩ := List.append_of_mem member
  obtain ⟨before, event, after, past, found, next, ahead, behind, -, ran, step, -⟩ := run?_emits run
  rw [← batchSize_of_run ran]
  exact step.sized (List.mem_append_right _ List.mem_cons_self)

/-- Whatever is formed or handed over in a run is a batch of one record at least, and of as many as
the batch size at most. -/
theorem carried_sized {capacity batchSize : Nat} {policy : Overflow} {interval : Span}
    {events : List Event} {system : System} {effects : List Effect}
    (run : (System.start capacity policy batchSize interval).run? events = some (system, effects))
    {effect : Effect} (member : effect ∈ effects) {batch : List Record}
    (carried : effect.carried? = some batch) :
    0 < batch.length ∧ batch.length ≤ max batchSize 1 := by
  obtain ⟨-, ledger⟩ := Ledger.of_run run
  -- Only the forming of a batch looks at the size; the others follow from where a batch was formed.
  cases effect with
  | formed task kept =>
    cases carried
    exact formed_sized run member
  | begun task kept =>
    cases carried
    exact formed_sized run (ledger.formed_of_work (.inl member))
  | delivered task kept =>
    cases carried
    exact formed_sized run (ledger.formed_of_work (.inr member))
  | _ => contradiction

end System

end FeedMonitor.Delivery
