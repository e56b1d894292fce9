import FeedMonitor.Proofs.Feed.Standing

/-!
The connection comes and goes in turns, and one wait lies between two attempts.

A state other than disconnected is made known by one kind of step, so a run is split there: before an
attempt the consumer rests, after as many delays as have been waited out, and a session writes its
subscription before anything else.
-/

namespace FeedMonitor.Feed.Consumer

variable {consumer next : Consumer} {event : Event} {effects more : List Effect}

/-! ### Where a state is made known -/

theorem Quiet.notMem {connection : Connection} (quiet : Quiet effects) :
    .published connection ∉ effects :=
  fun member => Option.some_ne_none _ (quiet _ member).1

theorem published_close {connection : Connection} {phase : Phase} {lines : List Effect}
    (quiet : Quiet lines) (member : .published connection ∈ (consumer.close phase lines).2) :
    connection = .disconnected := by
  by_cases closed : consumer.connection = .disconnected
  · rw [close_of_disconnected closed] at member
    exact absurd member quiet.notMem
  · rw [close_of_ne closed] at member
    rcases List.mem_cons.mp member with here | behind
    · cases here
      rfl
    · exact absurd behind quiet.notMem

/-- A state other than disconnected is made known in one way. -/
theorem Step.published {connection : Connection} (step : Step consumer event next effects)
    (member : .published connection ∈ effects) :
    connection = .disconnected ∨
      (connection = .connecting ∧ consumer.phase = .resting ∧ event = .goOn ∧
        effects = [.published .connecting, line .debug s!"Connecting to {consumer.url}"]) ∨
      (connection = .connected ∧ event = .connected ∧ consumer.phase = .connecting) := by
  cases step with
  | change | signal | cancel | quit | read | ping | pong | resubscribe | awake | leave | part =>
    exact absurd member List.not_mem_nil
  | start | skip => exact absurd member Quiet.line.notMem
  | text | binary => exact absurd member (Quiet.logs _).notMem
  | subscribed => exact absurd member (Quiet.line.wrote _).notMem
  | ponged => exact absurd member (Quiet.nil.wrote _).notMem
  | stop | refused | closed | failed | unwritten => exact .inl (published_close .line member)
  | parted | unparted =>
    rcases List.mem_cons.mp member with here | behind
    · cases here
    · exact .inl (published_close .nil behind)
  | pause => simp [Consumer.pause, line] at member
  | connect resting =>
    by_cases known : consumer.connection = .connecting
    · simp [publish, known, line] at member
    · refine .inr (.inl ⟨?_, resting, rfl, ?_⟩)
      · simpa [publish, known, line] using member
      · simp [publish, known]
  | enter connecting =>
    refine .inr (.inr ⟨?_, rfl, connecting⟩)
    by_cases known : consumer.connection = .connected
    · simp [Consumer.enter, publish, known, line] at member
    · simpa [Consumer.enter, publish, known, line] using member

/-- The frame that is written first, before another state is made known. -/
def firstWritten? (effects : List Effect) : Option Outgoing :=
  ((effects.takeWhile fun effect => effect.published?.isNone).filterMap Effect.wrote?).head?

/-- What comes while a frame is written, apart from what becomes of it. -/
theorem Step.of_writing {frame : Outgoing} (step : Step consumer event next effects)
    (writing : consumer.phase = .writing frame) :
    (effects = [] ∧ next.phase = .writing frame ∧ next.connection = consumer.connection) ∨
      event = .written ∨ ∃ cause, event = .unwritten cause := by
  cases step with
  | change | signal | cancel => exact .inl ⟨rfl, writing, rfl⟩
  | subscribed | ponged | parted => exact .inr (.inl rfl)
  | unwritten cause | unparted cause => exact .inr (.inr ⟨cause, rfl⟩)
  | _ => simp_all

theorem firstWritten?_of_writing {symbols : SymbolSet} {events : List Event}
    (writing : consumer.phase = .writing (.subscribe symbols))
    (connected : consumer.connection = .connected)
    (run : consumer.run? events = some (next, effects)) :
    ∀ frame ∈ firstWritten? effects, frame = .subscribe symbols := by
  induction events generalizing consumer effects with
  | nil =>
    rw [runs.nil] at run
    cases run
    intro frame first
    cases first
  | cons event rest ih =>
    obtain ⟨middle, first, more, stepped, ran, rfl⟩ := runs.cons_iff.mp run
    rcases (step_of_step? stepped).of_writing writing with
      ⟨rfl, still, same⟩ | rfl | ⟨cause, rfl⟩
    · exact ih still (same.trans connected) ran
    · simp only [step?, writing] at stepped
      cases stepped
      intro frame here
      exact (Option.some.inj here).symm
    · simp only [step?, writing] at stepped
      have ended : consumer.sessionFailed (.send cause) = (middle, first) := Option.some.inj stepped
      rw [sessionFailed, close_of_ne (by rw [connected]; decide)] at ended
      cases ended
      intro frame here
      cases here

/-- What comes while the symbols are not yet read. -/
theorem Step.of_reading (step : Step consumer event next effects)
    (reading : consumer.phase = .reading) (other : event ≠ .goOn) :
    effects = [] ∧ next.phase = .reading ∧ next.connection = consumer.connection := by
  cases step with
  | change | signal | cancel => exact ⟨rfl, reading, rfl⟩
  | _ => simp_all

theorem run?_of_reading {events : List Event} (reading : consumer.phase = .reading)
    (other : .goOn ∉ events) (run : consumer.run? events = some (next, effects)) :
    effects = [] ∧ next.phase = .reading ∧ next.connection = consumer.connection := by
  induction events generalizing consumer effects with
  | nil =>
    rw [runs.nil] at run
    cases run
    exact ⟨rfl, reading, rfl⟩
  | cons event rest ih =>
    obtain ⟨middle, first, more, stepped, ran, rfl⟩ := runs.cons_iff.mp run
    have here : event ≠ .goOn := fun same => other (same ▸ List.mem_cons_self)
    obtain ⟨rfl, still, same⟩ := (step_of_step? stepped).of_reading reading here
    obtain ⟨rfl, last, kept⟩ := ih still (fun member => other (List.mem_cons_of_mem _ member)) ran
    exact ⟨rfl, last, kept.trans same⟩

/-- A session that begins with `consumer`: the count of failures is set back, and if there are
symbols when they are read, the first frame asks for them. -/
structure Opens (consumer : Consumer) (events : List Event) (effects : List Effect) : Prop where
  reset : consumer.backoff.failures = 0
  first : ∀ quiet later, events = quiet ++ .goOn :: later → .goOn ∉ quiet →
    ∃ reader, consumer.run? quiet = some (reader, []) ∧ reader.phase = .reading ∧
      (reader.subscription.symbols.isEmpty = false →
        ∀ frame ∈ firstWritten? effects, frame = .subscribe reader.subscription.symbols)

theorem opens_enter {events : List Event} (attempted : consumer.connection = .connecting)
    (run : consumer.enter.1.run? events = some (next, effects)) (text : String) :
    Opens consumer.enter.1 events (line .info text :: effects) where
  reset := by
    rw [enter_of_connecting attempted]
    rfl
  first := by
    rintro quiet later rfl other
    obtain ⟨reader, none, more, ran, went, rfl⟩ := runs.append_iff.mp run
    have reading : consumer.enter.1.phase = .reading := by rw [enter_of_connecting attempted]
    obtain ⟨rfl, read, same⟩ := run?_of_reading reading other ran
    refine ⟨reader, ran, read, fun wanted => ?_⟩
    obtain ⟨writer, first, rest, stepped, wrote, rfl⟩ := runs.cons_iff.mp went
    have step : reader.step? .goOn = some
        ({ reader with phase := .writing (.subscribe reader.subscription.symbols) }, []) := by
      simp [step?, goOn, read, wanted]
    rw [step] at stepped
    cases stepped
    have connected : reader.connection = .connected := by
      rw [same, enter_of_connecting attempted]
    have asked : ∀ frame ∈ firstWritten? rest, frame = .subscribe reader.subscription.symbols := by
      refine firstWritten?_of_writing ?_ ?_ wrote
      · rfl
      · exact connected
    exact asked

theorem first_of_split {ahead behind rest : List Effect} {effect : Effect}
    (split : effect :: rest = ahead ++ effect :: behind) (once : effect ∉ rest) :
    ahead = [] ∧ behind = rest := by
  cases ahead with
  | nil => exact ⟨rfl, (List.cons.inj split).2.symm⟩
  | cons other ahead =>
    have tail : rest = ahead ++ effect :: behind := (List.cons.inj split).2
    rw [tail] at once
    exact absurd (List.mem_append_right _ List.mem_cons_self) once

/-! ### Delays are waited out -/

def Phase.waits : Phase → Nat
  | .pausing _ => 1
  | _ => 0

/-- Every delay that began is over, but for the one that goes on and one that a cancellation cut
short. -/
def Waited (events : List Event) (phase : Phase) (effects : List Effect) : Prop :=
  phase = .leaving ∨ phase = .stopped ∨
    events.count .awake + phase.waits = (effects.filterMap Effect.paused?).length

theorem Waited.stay {events : List Event} {phase later : Phase}
    (waited : Waited events phase effects) (other : event ≠ .awake)
    (silent : more.filterMap Effect.paused? = []) (same : later.waits = phase.waits)
    (on : later = phase ∨ (phase ≠ .leaving ∧ phase ≠ .stopped)) :
    Waited (events ++ [event]) later (effects ++ more) := by
  have count : (events ++ [event]).count .awake = events.count .awake := by
    rw [List.count_append, List.count_singleton, if_neg (by simpa using other)]
    rfl
  unfold Waited
  rw [count, same, List.filterMap_append, silent, List.append_nil]
  rcases on with rfl | ⟨staying, running⟩
  · exact waited
  · exact .inr (.inr ((waited.resolve_left staying).resolve_left running))

theorem paused_close {phase : Phase} {lines : List Effect} (quiet : Quiet lines) :
    (consumer.close phase lines).2.filterMap Effect.paused? = [] := by
  by_cases closed : consumer.connection = .disconnected
  · rw [close_of_disconnected closed]
    exact quiet.paused
  · rw [close_of_ne closed]
    exact quiet.paused

theorem Step.waited {events : List Event} (step : Step consumer event next more)
    (before : Waited events consumer.phase effects) :
    Waited (events ++ [event]) next.phase (effects ++ more) := by
  cases step with
  | change | signal | cancel | pong => exact before.stay (by simp) rfl rfl (.inl rfl)
  | text | binary => exact before.stay (by simp) (Quiet.logs _).paused rfl (.inl rfl)
  | start phase | skip phase | read phase | ping _ phase | resubscribe phase | subscribed phase
  | ponged phase | part _ phase =>
    rw [phase] at before
    exact before.stay (by simp) rfl rfl (.inr ⟨by simp, by simp⟩)
  | connect resting =>
    rw [resting] at before
    refine before.stay (by simp) ?_ rfl (.inr ⟨by simp, by simp⟩)
    unfold publish
    split <;> rfl
  | enter connecting =>
    rw [connecting] at before
    refine before.stay (by simp) ?_ rfl (.inr ⟨by simp, by simp⟩)
    by_cases known : consumer.connection = .connected <;>
      simp [Consumer.enter, publish, known, line, Effect.paused?]
  | refused _ phase | failed _ phase | unwritten _ phase =>
    rw [phase] at before
    exact before.stay (by simp) (paused_close .line) rfl (.inr ⟨by simp, by simp⟩)
  | closed final listening =>
    rw [listening] at before
    refine before.stay ?_ (paused_close .line) rfl (.inr ⟨by simp, by simp⟩)
    rcases final with rfl | rfl <;> simp
  | quit | leave | parted | unparted => exact .inl rfl
  | stop => exact .inr (.inl rfl)
  | pause draw parting =>
    rw [parting] at before
    have waited := (before.resolve_left (by simp)).resolve_left (by simp)
    refine .inr (.inr ?_)
    rw [List.count_append, List.filterMap_append, List.length_append, ← waited]
    rfl
  | awake pausing =>
    rw [pausing] at before
    have waited := (before.resolve_left (by simp)).resolve_left (by simp)
    refine .inr (.inr ?_)
    rw [List.count_append, List.append_nil, ← waited]
    rfl

theorem waited_of_run {settings : Settings} {events : List Event}
    (run : (ofSettings settings).run? events = some (consumer, effects)) :
    Waited events consumer.phase effects := by
  refine runs.induction (fun events consumer effects => Waited events consumer.phase effects)
    (.inr (.inr rfl)) ?_ run
  intro events consumer effects event next more before _ stepped
  exact (step_of_step? stepped).waited before

/-- What a run makes of the connection. -/
structure Alternates (settings : Settings) (events : List Event) (consumer : Consumer)
    (effects : List Effect) : Prop where
  differ : (states effects).IsChain (· ≠ ·)
  start : ∃ word, Word word ∧ states effects <+: word
  last : consumer.phase = .stopped → (states effects).getLast? = some .disconnected
  sessions : ∀ earlier later, effects = earlier ++ .published .connected :: later →
    ∃ before after found entered first, events = before ++ .connected :: after ∧
      (ofSettings settings).run? before = some (found, earlier) ∧
      found.step? .connected = some (entered, first) ∧ Opens entered after later
  /-- Before an attempt all delays are waited out, one since the last state was made known. -/
  attempts : ∀ earlier later, effects = earlier ++ .published .connecting :: later →
    Rested settings.backoff earlier ∧
    ∃ before after found, events = before ++ .goOn :: after ∧
      (ofSettings settings).run? before = some (found, earlier) ∧
      before.count .awake = (earlier.filterMap Effect.paused?).length

theorem session_of_connected {settings : Settings} {events : List Event}
    {earlier later : List Effect}
    (run : (ofSettings settings).run? events =
      some (consumer, earlier ++ .published .connected :: later)) :
    ∃ before after found entered first, events = before ++ .connected :: after ∧
      (ofSettings settings).run? before = some (found, earlier) ∧
      found.step? .connected = some (entered, first) ∧ Opens entered after later := by
  obtain ⟨before, event, after, past, found, next, ahead, behind, rest, rfl, ran, stepped,
    continued, rfl, rfl⟩ := runs.emits_then run
  have member : .published .connected ∈ ahead ++ .published .connected :: behind :=
    List.mem_append_right _ List.mem_cons_self
  rcases (step_of_step? stepped).published member with impossible | ⟨impossible, -⟩ |
    ⟨-, rfl, connecting⟩
  · contradiction
  · contradiction
  · have attempted : found.connection = .connecting := by
      have fits := (standing_of_run ran).fits
      rwa [connecting] at fits
    have entered : found.step? .connected = some found.enter := by
      simp only [step?, connecting]
    have first := entered.symm.trans stepped
    rw [enter_of_connecting attempted] at first
    obtain ⟨-, split⟩ := Prod.mk.inj (Option.some.inj first)
    obtain ⟨rfl, rfl⟩ := first_of_split split Quiet.line.notMem
    have last : next = found.enter.1 :=
      congrArg Prod.fst (Option.some.inj (stepped.symm.trans entered))
    rw [last] at continued
    rw [List.append_nil]
    exact ⟨before, after, found, _, _, rfl, ran, entered, opens_enter attempted continued _⟩

theorem attempt_of_connecting {settings : Settings} {events : List Event}
    {earlier later : List Effect}
    (run : (ofSettings settings).run? events =
      some (consumer, earlier ++ .published .connecting :: later)) :
    Rested settings.backoff earlier ∧
      ∃ before after found, events = before ++ .goOn :: after ∧
        (ofSettings settings).run? before = some (found, earlier) ∧
        before.count .awake = (earlier.filterMap Effect.paused?).length := by
  obtain ⟨before, event, after, past, found, next, ahead, behind, rfl, ran, stepped, rfl⟩ :=
    runs.emits run
  have member : .published .connecting ∈ ahead ++ .published .connecting :: behind :=
    List.mem_append_right _ List.mem_cons_self
  rcases (step_of_step? stepped).published member with impossible |
    ⟨-, resting, rfl, split⟩ | ⟨impossible, -⟩
  · contradiction
  · obtain ⟨rfl, -⟩ := first_of_split split.symm Quiet.line.notMem
    have rests := (standing_of_run ran).rests
    have waited := waited_of_run ran
    rw [resting] at rests waited
    rw [List.append_nil]
    exact ⟨rests, before, after, found, rfl, ran,
      (waited.resolve_left (by simp)).resolve_left (by simp)⟩
  · contradiction

theorem connection_alternates {settings : Settings} {events : List Event}
    (run : (ofSettings settings).run? events = some (consumer, effects)) :
    Alternates settings events consumer effects := by
  have standing := standing_of_run run
  obtain ⟨word, complete, start⟩ := standing.course.exists_word
  have chain := List.IsChain.prefix complete.isChain start
  refine ⟨chain, ⟨word, complete, start⟩, ?_, ?_, ?_⟩
  · intro stopped
    have course := standing.course
    rw [standing.disconnected (.inr (.inr (.inr (.inl stopped))))] at course
    cases course with
    | disconnected complete => exact complete.getLast?
  · rintro earlier later rfl
    exact session_of_connected run
  · rintro earlier later rfl
    exact attempt_of_connecting run

/-- A feed that waits twice as long after each failure, and a part of that. -/
def doubling : Settings :=
  ⟨"wss://feed", .ofNames ["ALPHA"], .exponential (.ofSeconds 1) (.ofSeconds 30) true⟩

/-- Two attempts fail, a session ends, and an attempt is cancelled. -/
def faltering : List Event :=
  [.goOn, .goOn, .refused "no route", .pause 700, .awake, .goOn, .refused "no route", .pause 1900,
    .awake, .goOn, .connected, .goOn, .written, .received .close, .pause 5, .awake, .goOn, .cancel,
    .leave, .goOn]

theorem connection_alternates_faltering :
    ∃ consumer effects, (ofSettings doubling).run? faltering = some (consumer, effects) ∧
      consumer.phase = .stopped ∧
      states effects = [.disconnected, .connecting, .disconnected, .connecting, .disconnected,
        .connecting, .connected, .disconnected, .connecting, .disconnected] ∧
      effects.filterMap Effect.paused? = [.ofMillis 700, .ofMillis 1900, .ofMillis 5] ∧
      Alternates doubling faltering consumer effects := by
  have ran : ((ofSettings doubling).run? faltering).map (fun result =>
      (result.1.phase, states result.2, result.2.filterMap Effect.paused?)) =
        some (.stopped, [.disconnected, .connecting, .disconnected, .connecting, .disconnected,
          .connecting, .connected, .disconnected, .connecting, .disconnected],
          [.ofMillis 700, .ofMillis 1900, .ofMillis 5]) := by
    decide +kernel
  obtain ⟨⟨consumer, effects⟩, run, seen⟩ := Option.map_eq_some_iff.mp ran
  obtain ⟨stopped, rest⟩ := Prod.mk.inj seen
  obtain ⟨known, paused⟩ := Prod.mk.inj rest
  exact ⟨consumer, effects, run, stopped, known, paused, connection_alternates run⟩

end FeedMonitor.Feed.Consumer
