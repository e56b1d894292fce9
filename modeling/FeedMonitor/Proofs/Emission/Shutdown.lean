import FeedMonitor.Proofs.Delivery.Run
import FeedMonitor.Proofs.Emission.Run

/-!
What becomes of emissions after a shutdown.

A shutdown is a command like any other: the delivery system goes on to read what was sent ahead of it
and then waits for its tasks, and takes commands all the while. An emission stays local only once the
system has stopped. Until then it is sent, and never read.
-/

namespace FeedMonitor

namespace Delivery

def Command.isShutdown : Command → Bool
  | shutdown => true
  | enqueue _ | flush _ | stats _ => false

def Command.record? : Command → Option Record
  | enqueue record => some record
  | flush _ | stats _ | shutdown => none

namespace System

/-- The loop is left already, or will be at a command that has been sent. -/
def Told (system : System) : Prop :=
  system.phase = .running → ∃ command ∈ system.inbox, command.isShutdown = true

/-- The records that are still read before the loop is left. -/
def due (system : System) : List Record :=
  if system.phase = .running then
    (system.inbox.takeWhile fun command => !command.isShutdown).filterMap Command.record?
  else []

variable {system next : System} {event : Event} {effects : List Effect}

theorem due_of_left (left : system.phase ≠ .running) : system.due = [] := if_neg left

theorem due_cons {command : Command} {inbox : List Command} (running : system.phase = .running)
    (waiting : system.inbox = command :: inbox) (other : command.isShutdown = false) :
    system.due = command.record?.toList ++ ({ system with inbox } : System).due := by
  have goesOn : (!command.isShutdown) = true := by rw [other]; rfl
  simp only [due, running, waiting, if_true, List.takeWhile_cons, goesOn]
  cases kept : command.record? with
  | none => rw [List.filterMap_cons_none kept]; rfl
  | some record => rw [List.filterMap_cons_some kept]; rfl

theorem due_send (told : system.Told) (command : Command) :
    ({ system with inbox := system.inbox ++ [command] } : System).due = system.due := by
  by_cases running : system.phase = .running
  · obtain ⟨last, member, ends⟩ := told running
    -- Only all of the commands being read would let the new one in, and the shutdown is not.
    have stops : (system.inbox ++ [command]).takeWhile (fun command => !command.isShutdown) =
        system.inbox.takeWhile fun command => !command.isShutdown := by
      rw [List.takeWhile_append, if_neg]
      intro whole
      have all := List.takeWhile_eq_self_iff.mp
        ((List.takeWhile_prefix _).eq_of_length whole) last member
      rw [ends] at all
      contradiction
    simp only [due, stops]
  · rw [due_of_left running]
    exact due_of_left running

theorem Told.tail {command : Command} {inbox : List Command} (told : system.Told)
    (waiting : system.inbox = command :: inbox) (other : command.isShutdown = false) :
    ({ system with inbox } : System).Told := by
  intro running
  obtain ⟨last, member, ends⟩ := told running
  rw [waiting] at member
  rcases List.mem_cons.mp member with rfl | member
  · rw [ends] at other
    contradiction
  · exact ⟨last, member, ends⟩

/-- A step reads what is due in order, and nothing else. -/
theorem Step.due (step : Step system event next effects) (told : system.Told) :
    next.Told ∧ effects.flatMap Effect.offers ++ next.due = system.due := by
  cases step with
  | send command taken =>
    refine ⟨fun running => ?_, due_send told command⟩
    obtain ⟨last, member, ends⟩ := told running
    exact ⟨last, List.mem_append_left _ member, ends⟩
  | enqueue now running waiting offered =>
    refine ⟨told.tail waiting rfl, ?_⟩
    rw [due_cons running waiting rfl, List.flatMap_cons, Effect.blind_offers.logs]
    rfl
  | flush now running waiting flushed =>
    refine ⟨told.tail waiting rfl, ?_⟩
    rw [due_cons running waiting rfl]
    simp [List.flatMap_map, Effect.offers, Command.record?, System.due, addTask]
  | stats now running waiting =>
    exact ⟨told.tail waiting rfl, (due_cons running waiting rfl).symm⟩
  | shutdown now running waiting =>
    refine ⟨fun running => Phase.noConfusion running, ?_⟩
    rw [Effect.blind_offers.flatMap (system.notes_drain _)]
    simp [System.due, running, waiting, Command.isShutdown]
  | idle now running set fired =>
    exact ⟨told, by rw [Effect.blind_offers.logs]; rfl⟩
  | fire now running set fired =>
    exact ⟨told, by rw [List.flatMap_cons, Effect.blind_offers.logs]; rfl⟩
  | leave running empty =>
    obtain ⟨last, member, ends⟩ := told running
    rw [empty] at member
    contradiction
  | stop draining ended =>
    refine ⟨fun running => Phase.noConfusion running, ?_⟩
    rw [Effect.blind_offers.flatMap (notes_lost _), due_of_left (by simp),
      due_of_left (by simp [draining])]
    rfl
  | begin => exact ⟨told, rfl⟩
  | deliver => exact ⟨told, rfl⟩
  | finish =>
    exact ⟨told, by rw [Effect.blind_offers.flatMap (system.notes_finish _)]; rfl⟩

theorem Step.stopped (step : Step system event next effects) :
    next.phase = .stopped ↔ system.phase = .stopped ∨ event = .stop := by
  cases step with
  | stop => simp
  | shutdown now running | leave running => simp [running]
  | _ => simp [addTask, putTask, System.finish]

end System

end Delivery

/-- An emitter and the delivery system that its records go to. -/
structure Scene where
  emitter : Emitter
  system : Delivery.System

namespace Scene

inductive Act
  | call (call : Emitter.Call)
  | shutdown
  | work (event : Delivery.Event)

def step? (scene : Scene) : Act → Option (Scene × List Delivery.Effect)
  | .call (.emit now time emission) =>
    let (_, emitter, channel, _) :=
      scene.emitter.emit Delivery.System.send? (some scene.system) now time emission
    some (⟨emitter, channel.getD scene.system⟩, [])
  | .call (.setDedup window threshold) =>
    some (⟨scene.emitter.setDedup window threshold, scene.system⟩, [])
  | .shutdown =>
    let (channel, _) := Emitter.shutdown Delivery.System.send? (some scene.system)
    some (⟨scene.emitter, channel.getD scene.system⟩, [])
  | .work event =>
    (scene.system.step? event).map fun (system, effects) => (⟨scene.emitter, system⟩, effects)

def run? : Scene → List Act → Option (Scene × List Delivery.Effect) := runWith step?

/-- What an emission would come to. -/
def outcome (scene : Scene) (now : Span) (time : Instant) (emission : Emission) : Emitter.Outcome :=
  (scene.emitter.emit Delivery.System.send? (some scene.system) now time emission).1

theorem runs : Runs step? run? := .ofStep step?

variable {scene next start : Scene} {act : Act} {effects : List Delivery.Effect}

/-- To send a command is one event if it is taken, and none if it is not. -/
theorem sent_or_same (system : Delivery.System) (command : Delivery.Command) :
    Delivery.System.Step system (.send command) ((system.send? command).getD system) [] ∨
      (system.send? command).getD system = system := by
  cases taken : system.send? command with
  | none => exact .inr rfl
  | some sent =>
    left
    apply Delivery.System.step_of_step?
    rw [Delivery.System.step?, taken]
    rfl

theorem step?_emit (scene : Scene) (now : Span) (time : Instant) (emission : Emission) :
    scene.step? (.call (.emit now time emission)) =
      some (⟨scene.emitter.tried now emission,
        ((scene.emitter.record? now time emission).bind fun record =>
          scene.system.send? (.enqueue record)).getD scene.system⟩, []) := by
  obtain ⟨journal, emitted, -⟩ := Emitter.exists_emit Delivery.System.send? scene.emitter
    (some scene.system) now time emission
  rw [step?, emitted]
  cases scene.emitter.record? now time emission with
  | none => rfl
  | some record =>
    simp only [Emitter.post, Option.bind_some]
    cases scene.system.send? (.enqueue record) with
    | none => rfl
    | some sent => rfl

theorem outcome_eq (scene : Scene) (now : Span) (time : Instant) (emission : Emission) :
    scene.outcome now time emission =
      (Emitter.post Delivery.System.send? (some scene.system)
        (scene.emitter.record? now time emission)).1 := by
  obtain ⟨journal, emitted, -⟩ := Emitter.exists_emit Delivery.System.send? scene.emitter
    (some scene.system) now time emission
  rw [outcome, emitted]

theorem step?_shutdown (scene : Scene) :
    scene.step? .shutdown =
      some (⟨scene.emitter, (scene.system.send? .shutdown).getD scene.system⟩, []) := by
  rw [step?, Emitter.shutdown]
  cases scene.system.send? .shutdown with
  | none => rfl
  | some sent => rfl

/-- An act is one event of the delivery system at most. -/
theorem event_of_step? (stepped : scene.step? act = some (next, effects)) :
    (∃ event, Delivery.System.Step scene.system event next.system effects ∧
      (event = .stop ↔ act = .work .stop)) ∨
    (next.system = scene.system ∧ effects = [] ∧ act ≠ .work .stop) := by
  cases act with
  | call call =>
    cases call with
    | setDedup window threshold =>
      cases stepped
      exact .inr ⟨rfl, rfl, by simp⟩
    | emit now time emission =>
      rw [step?_emit] at stepped
      cases made : scene.emitter.record? now time emission with
      | none =>
        rw [made] at stepped
        cases stepped
        exact .inr ⟨rfl, rfl, by simp⟩
      | some record =>
        rw [made] at stepped
        cases stepped
        rcases sent_or_same scene.system (.enqueue record) with sent | same
        · exact .inl ⟨_, sent, by simp⟩
        · exact .inr ⟨same, rfl, by simp⟩
  | shutdown =>
    rw [step?_shutdown] at stepped
    cases stepped
    rcases sent_or_same scene.system .shutdown with sent | same
    · exact .inl ⟨_, sent, by simp⟩
    · exact .inr ⟨same, rfl, by simp⟩
  | work event =>
    obtain ⟨⟨system, more⟩, done, same⟩ := Option.map_eq_some_iff.mp stepped
    cases same
    exact .inl ⟨event, Delivery.System.step_of_step? done, by simp⟩

theorem due_step (stepped : scene.step? act = some (next, effects)) (told : scene.system.Told) :
    next.system.Told ∧
      effects.flatMap Delivery.Effect.offers ++ next.system.due = scene.system.due := by
  rcases event_of_step? stepped with ⟨event, step, -⟩ | ⟨same, rfl, -⟩
  · exact step.due told
  · rw [same]
    exact ⟨told, rfl⟩

theorem stopped_step (stepped : scene.step? act = some (next, effects)) :
    next.system.phase = .stopped ↔ scene.system.phase = .stopped ∨ act = .work .stop := by
  rcases event_of_step? stepped with ⟨event, step, stops⟩ | ⟨same, -, other⟩
  · rw [step.stopped, stops]
  · rw [same]
    simp [other]

theorem due_run {acts : List Act} (told : start.system.Told)
    (run : start.run? acts = some (scene, effects)) :
    scene.system.Told ∧
      effects.flatMap Delivery.Effect.offers ++ scene.system.due = start.system.due := by
  refine runs.induction (fun _ scene effects => scene.system.Told ∧
    effects.flatMap Delivery.Effect.offers ++ scene.system.due = start.system.due) ⟨told, rfl⟩ ?_ run
  rintro acts scene effects act next more ⟨told, read⟩ - stepped
  obtain ⟨still, first⟩ := due_step stepped told
  refine ⟨still, ?_⟩
  rw [List.flatMap_append, List.append_assoc, first, read]

theorem stopped_run {acts : List Act} (run : start.run? acts = some (scene, effects)) :
    scene.system.phase = .stopped ↔ start.system.phase = .stopped ∨ .work .stop ∈ acts := by
  refine runs.induction (fun acts scene _ => scene.system.phase = .stopped ↔
    start.system.phase = .stopped ∨ .work .stop ∈ acts) (by simp) ?_ run
  intro acts scene effects act next more before _ stepped
  rw [stopped_step stepped, before, List.mem_append, List.mem_singleton, or_assoc]
  exact or_congr_right (or_congr_right eq_comm)

theorem told_shutdown (stepped : scene.step? .shutdown = some (next, effects)) :
    next.system.Told := by
  rw [step?_shutdown] at stepped
  cases stepped
  by_cases stopped : scene.system.phase = .stopped
  · intro running
    simp [Delivery.System.send?, stopped] at running
  · intro _
    refine ⟨.shutdown, ?_, rfl⟩
    simp [Delivery.System.send?, stopped]

theorem told_of_run {before after : List Act}
    (run : start.run? (before ++ .shutdown :: after) = some (scene, effects)) :
    scene.system.Told := by
  obtain ⟨middle, first, more, -, rest, -⟩ := runs.append_iff.mp run
  -- What happened before the shutdown does not matter: it leaves the system told in any case.
  obtain ⟨next, none, last, stepped, continued, -⟩ := runs.cons_iff.mp rest
  exact (due_run (told_shutdown stepped) continued).1

theorem outcome_of_made {now : Span} {time : Instant} {emission : Emission} {record : Record}
    (made : scene.emitter.record? now time emission = some record) :
    scene.outcome now time emission =
      if scene.system.phase = .stopped then .localOnly else .queued := by
  rw [outcome_eq, made]
  by_cases stopped : scene.system.phase = .stopped
  · simp [Emitter.post, Delivery.System.send?, stopped]
  · simp [Emitter.post, Delivery.System.send?, stopped]

/-- After a shutdown a record stays local exactly if the delivery system has stopped by then. Until
then it is queued, and whatever comes, what is still read is what was due before. -/
theorem emission_after_shutdown {before after : List Act} {now : Span} {time : Instant}
    {emission : Emission} {record : Record}
    (run : start.run? (before ++ .shutdown :: after) = some (scene, effects))
    (made : scene.emitter.record? now time emission = some record) :
    (scene.outcome now time emission = .localOnly ↔
      start.system.phase = .stopped ∨ .work .stop ∈ before ++ .shutdown :: after) ∧
    (scene.outcome now time emission = .queued ↔ scene.system.phase ≠ .stopped) ∧
    ∀ later final more,
      scene.run? (.call (.emit now time emission) :: later) = some (final, more) →
      more.flatMap Delivery.Effect.offers ++ final.system.due = scene.system.due := by
  have result := outcome_of_made made
  refine ⟨?_, ?_, ?_⟩
  · rw [← stopped_run run, result]
    by_cases stopped : scene.system.phase = .stopped <;> simp [stopped]
  · rw [result]
    by_cases stopped : scene.system.phase = .stopped <;> simp [stopped]
  · intro later final more continued
    exact (due_run (told_of_run run) continued).2

/-- A scene in which nothing has happened yet. -/
def fresh : Scene := ⟨Emitter.quiet, .start 2 .dropNewest 1 ⟨5⟩⟩

def remark (message : String) : Emission := ⟨.info, message, .empty, .none⟩

theorem emission_after_shutdown_unread :
    ∃ scene effects record,
      fresh.run? [.call (.emit ⟨0⟩ ⟨0, 0⟩ (remark "before")), .shutdown] = some (scene, effects) ∧
      scene.emitter.record? ⟨1⟩ ⟨1, 0⟩ (remark "after") = some record ∧
      scene.outcome ⟨1⟩ ⟨1, 0⟩ (remark "after") = .queued ∧
      scene.system.due.map Record.message = ["before"] ∧
      ∀ later final more,
        scene.run? (.call (.emit ⟨1⟩ ⟨1, 0⟩ (remark "after")) :: later) = some (final, more) →
        more.flatMap Delivery.Effect.offers ++ final.system.due = scene.system.due := by
  refine ⟨_, _, _, rfl, rfl, ?_⟩
  obtain ⟨-, queued, unread⟩ := @emission_after_shutdown _ fresh _
    [.call (.emit ⟨0⟩ ⟨0, 0⟩ (remark "before"))] [] ⟨1⟩ ⟨1, 0⟩ (remark "after") _ rfl rfl
  exact ⟨queued.mpr (by decide), by decide +kernel, unread⟩

theorem queued_after_shutdown :
    ¬∀ (start scene : Scene) (before after : List Act) (effects : List Delivery.Effect) (now : Span)
      (time : Instant) (emission : Emission) (record : Record),
      start.run? (before ++ .shutdown :: after) = some (scene, effects) →
      scene.emitter.record? now time emission = some record →
      scene.outcome now time emission = .localOnly := by
  intro always
  have claimed := always fresh _ [] [] _ ⟨1⟩ ⟨1, 0⟩ (remark "after") _ rfl rfl
  revert claimed
  decide +kernel

end Scene

end FeedMonitor
