import Mathlib.Data.List.Induction

/-!
Runs of anything that takes steps, one event at a time, and has effects.

A run can be cut at any event, what holds at the start and is kept by each step holds at the end, and
each effect comes from one of the steps.
-/

namespace FeedMonitor

/-- `run?` takes the steps of a list of events as long as they can happen and joins their effects. -/
structure Runs {σ ε α : Type} (step? : σ → ε → Option (σ × List α))
    (run? : σ → List ε → Option (σ × List α)) : Prop where
  nil : ∀ system, run? system [] = some (system, [])
  cons : ∀ system event rest, run? system (event :: rest) = (step? system event).bind fun stepped =>
    (run? stepped.1 rest).map fun ran => (ran.1, stepped.2 ++ ran.2)

/-- The run of a list of events, where there is no other definition of it. -/
def runWith {σ ε α : Type} (step? : σ → ε → Option (σ × List α)) (system : σ) (events : List ε) :
    Option (σ × List α) :=
  events.foldr (fun event goOn system => (step? system event).bind fun stepped =>
    (goOn stepped.1).map fun ran => (ran.1, stepped.2 ++ ran.2)) (fun system => some (system, []))
    system

namespace Runs

variable {σ ε α : Type} {step? : σ → ε → Option (σ × List α)}
  {run? : σ → List ε → Option (σ × List α)}

theorem ofStep (step? : σ → ε → Option (σ × List α)) : Runs step? (runWith step?) :=
  ⟨fun _ => rfl, fun _ _ _ => rfl⟩

theorem cons_iff (runs : Runs step? run?) {system final : σ} {event : ε} {rest : List ε}
    {effects : List α} :
    run? system (event :: rest) = some (final, effects) ↔
      ∃ next first more, step? system event = some (next, first) ∧
        run? next rest = some (final, more) ∧ effects = first ++ more := by
  rw [runs.cons]
  simp only [Option.bind_eq_some_iff, Option.map_eq_some_iff, Prod.mk.injEq, Prod.exists]
  constructor
  · rintro ⟨next, first, stepped, last, more, ran, rfl, rfl⟩
    exact ⟨next, first, more, stepped, ran, rfl⟩
  · rintro ⟨next, first, more, stepped, ran, rfl⟩
    exact ⟨next, first, stepped, final, more, ran, rfl, rfl⟩

theorem append_iff (runs : Runs step? run?) {system final : σ} {earlier later : List ε}
    {effects : List α} :
    run? system (earlier ++ later) = some (final, effects) ↔
      ∃ middle first more, run? system earlier = some (middle, first) ∧
        run? middle later = some (final, more) ∧ effects = first ++ more := by
  induction earlier generalizing system effects with
  | nil =>
    rw [List.nil_append, runs.nil]
    constructor
    · intro ran
      exact ⟨system, [], effects, rfl, ran, rfl⟩
    · rintro ⟨middle, first, more, ⟨⟩, ran, rfl⟩
      exact ran
  | cons event rest ih =>
    simp only [List.cons_append, runs.cons_iff, ih]
    constructor
    · rintro ⟨next, first, _, stepped, ⟨middle, second, third, ran, last, rfl⟩, rfl⟩
      exact ⟨middle, first ++ second, third, ⟨next, first, second, stepped, ran, rfl⟩, last,
        by rw [List.append_assoc]⟩
    · rintro ⟨middle, _, third, ⟨next, first, second, stepped, ran, rfl⟩, last, rfl⟩
      exact ⟨next, first, second ++ third, stepped, ⟨middle, second, third, ran, last, rfl⟩,
        by rw [List.append_assoc]⟩

/-- A run of at least one event is a run of all but the last and then a step. -/
theorem concat_iff (runs : Runs step? run?) {system final : σ} {earlier : List ε} {event : ε}
    {effects : List α} :
    run? system (earlier ++ [event]) = some (final, effects) ↔
      ∃ middle first more, run? system earlier = some (middle, first) ∧
        step? middle event = some (final, more) ∧ effects = first ++ more := by
  rw [runs.append_iff]
  constructor
  · rintro ⟨middle, first, more, ran, last, rfl⟩
    obtain ⟨next, second, none, stepped, ended, rfl⟩ := runs.cons_iff.mp last
    rw [runs.nil] at ended
    cases ended
    exact ⟨middle, first, second, ran, stepped, by rw [List.append_nil]⟩
  · rintro ⟨middle, first, more, ran, stepped, rfl⟩
    exact ⟨middle, first, more, ran,
      runs.cons_iff.mpr ⟨final, more, [], stepped, runs.nil final, (List.append_nil more).symm⟩, rfl⟩

/-- What holds at the start and is kept by every step holds after every run. -/
theorem induction (runs : Runs step? run?) {start : σ} (holds : List ε → σ → List α → Prop)
    (initial : holds [] start [])
    (step : ∀ events system effects event next more, holds events system effects →
      run? start events = some (system, effects) → step? system event = some (next, more) →
        holds (events ++ [event]) next (effects ++ more))
    {events : List ε} {system : σ} {effects : List α}
    (run : run? start events = some (system, effects)) : holds events system effects := by
  -- The last event is taken off, so that what comes before it is a run of its own.
  induction events using List.reverseRecOn generalizing system effects with
  | nil =>
    rw [runs.nil] at run
    cases run
    exact initial
  | append_singleton earlier event ih =>
    obtain ⟨middle, first, more, ran, stepped, rfl⟩ := runs.concat_iff.mp run
    exact step _ _ _ _ _ _ (ih ran) ran stepped

/-- An effect of a run comes from a step, before which the effects ahead of it have happened. -/
theorem emits (runs : Runs step? run?) {start system : σ} {events : List ε}
    {earlier later : List α} {effect : α}
    (run : run? start events = some (system, earlier ++ effect :: later)) :
    ∃ before event after past found next ahead behind,
      events = before ++ event :: after ∧ run? start before = some (found, past) ∧
      step? found event = some (next, ahead ++ effect :: behind) ∧ earlier = past ++ ahead := by
  induction events using List.reverseRecOn generalizing system earlier later with
  | nil => simp [runs.nil] at run
  | append_singleton before event ih =>
    obtain ⟨found, past, more, ran, stepped, split⟩ := runs.concat_iff.mp run
    rcases List.append_eq_append_iff.mp split with ⟨past', rfl, rest⟩ | ⟨ahead, rfl, rest⟩
    · cases past' with
      | nil =>
        rw [List.append_nil] at ran
        subst rest
        exact ⟨before, event, [], earlier, found, system, [], later, rfl, ran, stepped,
          (List.append_nil _).symm⟩
      | cons first past' =>
        obtain ⟨rfl, rfl⟩ := List.cons.inj rest
        obtain ⟨before, event', after, past, found, next, ahead, behind, rfl, facts⟩ := ih ran
        exact ⟨before, event', after ++ [event], past, found, next, ahead, behind, by simp, facts⟩
    · subst rest
      exact ⟨before, event, [], past, found, system, ahead, later, rfl, ran, stepped, rfl⟩

/-- After the step that an effect comes from, the run goes on to the effects behind it. -/
theorem emits_then (runs : Runs step? run?) {start system : σ} {events : List ε}
    {earlier later : List α} {effect : α}
    (run : run? start events = some (system, earlier ++ effect :: later)) :
    ∃ before event after past found next ahead behind rest,
      events = before ++ event :: after ∧ run? start before = some (found, past) ∧
      step? found event = some (next, ahead ++ effect :: behind) ∧
      run? next after = some (system, rest) ∧ earlier = past ++ ahead ∧ later = behind ++ rest := by
  obtain ⟨before, event, after, past, found, next, ahead, behind, rfl, ran, stepped, rfl⟩ :=
    runs.emits run
  obtain ⟨found', past', more, ran', went, effects⟩ := runs.append_iff.mp run
  rw [ran] at ran'
  cases ran'
  obtain ⟨next', first, rest, stepped', continued, rfl⟩ := runs.cons_iff.mp went
  rw [stepped] at stepped'
  cases stepped'
  have same : effect :: later = effect :: (behind ++ rest) := by
    simpa using effects
  exact ⟨before, event, after, past, found, next, ahead, behind, rest, rfl, ran, stepped, continued,
    rfl, (List.cons.inj same).2⟩

end Runs

end FeedMonitor
