import FeedMonitor.Proofs.Delivery.BatchSize
import FeedMonitor.Proofs.Delivery.Conservation

/-!
How long a record waits, counted in firings of the timer.

Nothing that happens puts a record ahead of one that waits, and each firing takes a batch from the
head of the queue. So the place of a record and the batch size say how many firings it can wait for.
-/

namespace FeedMonitor.Delivery

def Event.isFiring : Event → Bool
  | .fire _ => true
  | _ => false

/-- How often the timer goes off. -/
def firings (events : List Event) : Nat := events.countP Event.isFiring

theorem firings_append (events more : List Event) :
    firings (events ++ more) = firings events + firings more := List.countP_append

/-- What leaves the queue in a part of a run and what waits at the end of it have waited before or
have entered since. -/
theorem Accounts.flow {service next : Service} {past since : List Effect}
    (before : Accounts service past) (after : Accounts next (past ++ since)) :
    since.flatMap Effect.releases ++ next.queue.items =
      service.queue.items ++ since.flatMap Effect.admits := by
  have whole := after.order
  rw [List.flatMap_append, List.flatMap_append, List.append_assoc, ← before.order,
    List.append_assoc] at whole
  exact List.append_cancel_left whole

namespace System

variable {system next : System} {event : Event} {effects : List Effect}

/-- A firing takes a batch, or all that is there if that is less. -/
theorem Step.released (step : Step system event next effects) (firing : event.isFiring) :
    (effects.flatMap Effect.releases).length =
      min system.service.batchSize system.service.queue.items.length := by
  cases step with
  | idle now running set fired =>
    obtain ⟨empty, -⟩ := Service.fire_eq_none fired
    rw [Effect.blind_releases.logs, empty]
    simp
  | fire now running set fired =>
    obtain ⟨-, taken, -⟩ := Service.fire_eq_some fired
    rw [List.flatMap_cons, Effect.blind_releases.logs, taken, List.append_nil, Effect.releases,
      List.length_take]
  | _ => contradiction

/-- As many batches as the timer goes off times, or at least all that waited before. -/
theorem released_of_firings {capacity batchSize : Nat} {policy : Overflow} {interval : Span}
    {queued final : System} {before after : List Event} {past since : List Effect}
    (ran : (start capacity policy batchSize interval).run? before = some (queued, past))
    (went : queued.run? after = some (final, since)) :
    min (firings after * max batchSize 1) queued.service.queue.items.length ≤
      (since.flatMap Effect.releases).length := by
  refine runs.induction (fun events _ effects =>
    min (firings events * max batchSize 1) queued.service.queue.items.length ≤
      (effects.flatMap Effect.releases).length) (by simp [firings]) ?_ went
  intro events system effects event next more released reached stepped
  rw [firings_append, List.flatMap_append, List.length_append]
  by_cases firing : event.isFiring
  · have once : firings [event] = 1 := by simp [firings, firing]
    have whole : (start capacity policy batchSize interval).run? (before ++ events) =
        some (system, past ++ effects) :=
      runs.append_iff.mpr ⟨queued, past, effects, ran, reached, rfl⟩
    have taken := (step_of_step? stepped).released firing
    have flow := congrArg List.length ((Accounts.of_run ran).flow (Accounts.of_run whole))
    have size : system.service.batchSize = max batchSize 1 := batchSize_of_run whole
    rw [List.length_append, List.length_append] at flow
    rw [once, taken, size, Nat.add_mul, Nat.one_mul]
    omega
  · have none : firings [event] = 0 := by simp [firings, firing]
    rw [none, Nat.add_zero]
    omega

/-- A record that is admitted is put behind all that wait. -/
theorem Step.entered (step : Step system event next effects) {record : Record}
    (admitted : record ∈ effects.flatMap Effect.admits) :
    ∃ ahead, next.service.queue.items = ahead ++ [record] := by
  cases step with
  | @enqueue now offer inbox outcome service journal running waiting offered =>
    have result : outcome = (system.service.queue.enqueue offer).1 := by
      rw [← (system.service.queue_enqueue now offer).1, offered]
    have queue : service.queue = (system.service.queue.enqueue offer).2.1 := by
      rw [← (system.service.queue_enqueue now offer).2.1, offered]
    rw [List.flatMap_cons, Effect.blind_admits.logs, List.append_nil] at admitted
    change ∃ ahead, service.queue.items = ahead ++ [record]
    rcases system.service.queue.enqueue_cases offer with ⟨-, accepted, items, -⟩ |
      ⟨-, -, dropped, -⟩ | ⟨-, -, head, rest, -, evicted, items, -⟩
    · rw [result, accepted] at admitted
      obtain rfl := List.mem_singleton.mp admitted
      exact ⟨_, queue ▸ items⟩
    · rw [result, dropped] at admitted
      contradiction
    · rw [result, evicted] at admitted
      obtain rfl := List.mem_singleton.mp admitted
      exact ⟨_, queue ▸ items⟩
  | flush now running waiting flushed =>
    simp [List.flatMap_map, Effect.admits] at admitted
  | fire now running set fired =>
    simp [Effect.admits, Effect.blind_admits.logs] at admitted
  | idle => simp [Effect.blind_admits.logs] at admitted
  | shutdown | leave =>
    rw [Effect.blind_admits.flatMap (system.notes_drain _)] at admitted
    contradiction
  | stop =>
    rw [Effect.blind_admits.flatMap (notes_lost _)] at admitted
    contradiction
  | finish =>
    rw [Effect.blind_admits.flatMap (notes_finish _ _)] at admitted
    contradiction
  | _ => simp [Effect.admits] at admitted

end System

/-- A record that entered the queue before some effects still waits: those that have entered since
are behind it. -/
def System.Waits (system : System) (record : Record) (since : List Effect) : Prop :=
  ∃ front, system.service.queue.items = front ++ record :: since.flatMap Effect.admits

/-- How the place of a record that has just entered the queue bounds its wait. -/
structure WaitBound (batchSize : Nat) (queued : System) (record : Record) (ahead : List Record) :
    Prop where
  entered : queued.service.queue.items = ahead ++ [record]
  /-- As long as the record waits, each firing brings it a batch nearer to the head. -/
  nearer : ∀ after final since front, queued.run? after = some (final, since) →
    final.service.queue.items = front ++ record :: since.flatMap Effect.admits →
      front.length + firings after * batchSize ≤ ahead.length
  /-- After one firing more than there are whole batches ahead of it, it does not wait any longer:
  whatever waits then has entered since. -/
  gone : ∀ after final since, queued.run? after = some (final, since) →
    ahead.length / batchSize + 1 ≤ firings after →
      ¬final.Waits record since ∧ final.service.queue.items <:+ since.flatMap Effect.admits

theorem leaves_within_firings {capacity batchSize : Nat} {policy : Overflow} {interval : Span}
    {before : List Event} {found queued : System} {past admission : List Effect} {event : Event}
    {record : Record}
    (ran : (System.start capacity policy batchSize interval).run? before = some (found, past))
    (stepped : found.step? event = some (queued, admission))
    (admitted : record ∈ admission.flatMap Effect.admits) :
    ∃ ahead, WaitBound (max batchSize 1) queued record ahead := by
  obtain ⟨ahead, entered⟩ := (System.step_of_step? stepped).entered admitted
  have reached : (System.start capacity policy batchSize interval).run? (before ++ [event]) =
      some (queued, past ++ admission) :=
    System.runs.concat_iff.mpr ⟨found, past, admission, ran, stepped, rfl⟩
  -- What leaves, what waits and what enters, with the number of those that leave.
  have flow {after : List Event} {final : System} {since : List Effect}
      (went : queued.run? after = some (final, since)) :
      since.flatMap Effect.releases ++ final.service.queue.items =
        ahead ++ record :: since.flatMap Effect.admits ∧
      min (firings after * max batchSize 1) (ahead.length + 1) ≤
        (since.flatMap Effect.releases).length := by
    have whole := System.runs.append_iff.mpr ⟨queued, _, since, reached, went, rfl⟩
    have flow := (Accounts.of_run reached).flow (Accounts.of_run whole)
    have released := System.released_of_firings reached went
    rw [entered] at flow released
    rw [List.length_append, List.length_singleton] at released
    exact ⟨by rw [flow]; simp, released⟩
  have nearer (after : List Event) (final : System) (since : List Effect) (front : List Record)
      (went : queued.run? after = some (final, since))
      (waiting : final.service.queue.items = front ++ record :: since.flatMap Effect.admits) :
      front.length + firings after * max batchSize 1 ≤ ahead.length := by
    obtain ⟨order, released⟩ := flow went
    have lengths := congrArg List.length order
    rw [waiting] at lengths
    simp only [List.length_append, List.length_cons] at lengths
    omega
  refine ⟨ahead, entered, nearer, fun after final since went enough => ?_⟩
  have beyond : ahead.length < firings after * max batchSize 1 :=
    (Nat.div_lt_iff_lt_mul (Nat.le_max_right ..)).mp enough
  refine ⟨?_, ?_⟩
  · rintro ⟨front, waiting⟩
    have near := nearer after final since front went waiting
    omega
  · obtain ⟨order, released⟩ := flow went
    have lengths := congrArg List.length order
    simp only [List.length_append, List.length_cons] at lengths
    have last : since.flatMap Effect.admits <:+
        ahead ++ record :: since.flatMap Effect.admits := ⟨ahead ++ [record], by simp⟩
    exact List.suffix_of_suffix_length_le ⟨_, order⟩ last (by omega)

/-- Five records for a queue of four that gives up its head, and batches of two. -/
def overfull : List Event :=
  ["a", "b", "c", "d", "e"].map (fun text =>
    .send (.enqueue (.ofMessage .info text ⟨0, 0⟩))) ++ List.replicate 4 (.handle ⟨0⟩)

/-- The last of them has three records ahead of it, so that it does not outlast two firings. -/
theorem leaves_within_firings_overfull :
    ∃ found past queued admission record,
      (System.start 4 .dropOldest 2 ⟨5⟩).run? overfull = some (found, past) ∧
        found.step? (.handle ⟨1⟩) = some (queued, admission) ∧
        record ∈ admission.flatMap Effect.admits ∧ record.message = "e" ∧
        queued.service.queue.size = 4 ∧ ∃ ahead, WaitBound 2 queued record ahead := by
  have ran : ((System.start 4 .dropOldest 2 ⟨5⟩).run? overfull).bind (fun result =>
      (result.1.step? (.handle ⟨1⟩)).map fun next =>
        (next.1.service.queue.size, (next.2.flatMap Effect.admits).map Record.message)) =
          some (4, ["e"]) := by
    decide +kernel
  obtain ⟨⟨found, past⟩, run, rest⟩ := Option.bind_eq_some_iff.mp ran
  obtain ⟨⟨queued, admission⟩, stepped, seen⟩ := Option.map_eq_some_iff.mp rest
  obtain ⟨size, messages⟩ := Prod.mk.inj seen
  obtain ⟨record, admitted, message⟩ := List.map_eq_singleton_iff.mp messages
  have member : record ∈ admission.flatMap Effect.admits := by
    rw [admitted]
    exact List.mem_singleton_self record
  exact ⟨found, past, queued, admission, record, run, stepped, member, message, size,
    leaves_within_firings run stepped member⟩

end FeedMonitor.Delivery
