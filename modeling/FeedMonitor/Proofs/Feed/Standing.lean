import FeedMonitor.Proofs.Feed.Backoff
import FeedMonitor.Proofs.Feed.Run
import Mathlib.Data.List.Chain

/-!
Where a consumer stands between its attempts to connect.

What is made known of the connection is the start of a word: disconnected, and then attempt after
attempt, with or without a session. The count of failures stands for the delays since the last
session, and a phase knows which delays lie behind it. Each step keeps this.
-/

namespace FeedMonitor.Feed

namespace BackoffPolicy

/-- The delays that a policy may give after `taken` delays: one below the ceiling if there is jitter,
and the ceiling itself if there is none. -/
def Allows (policy : BackoffPolicy) (taken : Nat) (delay : Span) : Prop :=
  if policy.hasJitter then delay.nanos ≤ (policy.ceiling taken).nanos
  else delay = policy.ceiling taken

end BackoffPolicy

/-- A count of failures stands for the delays that were taken, as far as it goes. -/
theorem Backoff.allows_next {backoff : Backoff} {taken : Nat}
    (counted : backoff.failures = min taken mostFailures) (draw : Nat) :
    backoff.policy.Allows taken (backoff.next draw).1 := by
  have ceiling : backoff.ceiling = backoff.policy.ceiling taken := by
    rw [Backoff.ceiling, counted, BackoffPolicy.ceiling_min]
  unfold BackoffPolicy.Allows
  split
  · rw [← ceiling]
    exact next_le_ceiling backoff draw
  · rename_i steady
    simp [next, steady, ceiling]

namespace Consumer

/-! ### What is made known -/

def Effect.published? : Effect → Option Connection
  | .published connection => some connection
  | _ => none

def Effect.paused? : Effect → Option Span
  | .paused delay => some delay
  | _ => none

def Effect.wrote? : Effect → Option Outgoing
  | .wrote frame => some frame
  | _ => none

/-- The states of the connection that were made known, from the first on. -/
def states (effects : List Effect) : List Connection :=
  .disconnected :: effects.filterMap Effect.published?

/-- Attempts one after the other, each with a session or without. -/
inductive Word : List Connection → Prop
  | start : Word [.disconnected]
  | attempt {word : List Connection} (before : Word word) :
      Word (word ++ [.connecting, .disconnected])
  | session {word : List Connection} (before : Word word) :
      Word (word ++ [.connecting, .connected, .disconnected])

theorem Word.getLast? {word : List Connection} (complete : Word word) :
    word.getLast? = some .disconnected := by
  cases complete with
  | start => rfl
  | attempt before => simp
  | session before => simp

theorem Word.isChain {word : List Connection} (complete : Word word) :
    word.IsChain (· ≠ ·) := by
  induction complete with
  | start => exact List.isChain_singleton _
  | attempt before ih =>
    refine List.isChain_append.mpr ⟨ih, by decide, ?_⟩
    intro last here first there
    rw [before.getLast?] at here
    cases here
    cases there
    decide
  | session before ih =>
    refine List.isChain_append.mpr ⟨ih, by decide, ?_⟩
    intro last here first there
    rw [before.getLast?] at here
    cases here
    cases there
    decide

/-- The states that were made known when the connection stands at one of them. -/
inductive Course : Connection → List Connection → Prop
  | disconnected {word : List Connection} (complete : Word word) : Course .disconnected word
  | connecting {word : List Connection} (complete : Word word) :
      Course .connecting (word ++ [.connecting])
  | connected {word : List Connection} (complete : Word word) :
      Course .connected (word ++ [.connecting, .connected])

theorem Course.exists_word {connection : Connection} {known : List Connection}
    (course : Course connection known) : ∃ word, Word word ∧ known <+: word := by
  cases course with
  | disconnected complete => exact ⟨known, complete, List.prefix_refl _⟩
  | @connecting word complete => exact ⟨_, .attempt complete, ⟨[.disconnected], by simp⟩⟩
  | @connected word complete => exact ⟨_, .session complete, ⟨[.disconnected], by simp⟩⟩

theorem Course.close {connection : Connection} {known : List Connection}
    (course : Course connection known) (some : connection ≠ .disconnected) :
    Word (known ++ [.disconnected]) := by
  cases course with
  | disconnected complete => exact absurd rfl some
  | connecting complete =>
    rw [List.append_assoc]
    exact .attempt complete
  | connected complete =>
    rw [List.append_assoc]
    exact .session complete

/-! ### Delays -/

/-- A count of delays, which starts anew with a session. -/
def Effect.count (taken : Nat) : Effect → Nat
  | .published .connected => 0
  | .paused _ => taken + 1
  | _ => taken

/-- The delays taken since the last session began, or since the start. -/
def delaysTaken (effects : List Effect) : Nat := effects.foldl Effect.count 0

theorem delaysTaken_append (effects more : List Effect) :
    delaysTaken (effects ++ more) = more.foldl Effect.count (delaysTaken effects) :=
  List.foldl_append

/-- Effects that neither make a state known nor begin a delay. -/
def Quiet (effects : List Effect) : Prop :=
  ∀ effect ∈ effects, effect.published? = none ∧ effect.paused? = none

theorem Quiet.logs (journal : Journal) : Quiet (journal.map .log) := by
  intro effect member
  obtain ⟨entry, -, rfl⟩ := List.mem_map.mp member
  exact ⟨rfl, rfl⟩

theorem Quiet.published {effects : List Effect} (quiet : Quiet effects) :
    effects.filterMap Effect.published? = [] :=
  List.filterMap_eq_nil_iff.mpr fun effect member => (quiet effect member).1

theorem Quiet.paused {effects : List Effect} (quiet : Quiet effects) :
    effects.filterMap Effect.paused? = [] :=
  List.filterMap_eq_nil_iff.mpr fun effect member => (quiet effect member).2

theorem Quiet.foldl_count {effects : List Effect} (quiet : Quiet effects) (taken : Nat) :
    effects.foldl Effect.count taken = taken := by
  refine List.foldlRecOn (motive := (· = taken)) effects _ rfl fun held same effect member => ?_
  have silent := quiet effect member
  cases effect with
  | log entry => exact same
  | published connection => cases silent.1
  | wrote frame => exact same
  | paused delay => cases silent.2

/-- The last state that was made known is disconnected, after `taken` delays, and these are the
delays from then on. -/
def RestsFor (effects : List Effect) (taken : Nat) (delays : List Span) : Prop :=
  ∃ before between, effects = before ++ .published .disconnected :: between ∧
    between.filterMap Effect.published? = [] ∧ between.filterMap Effect.paused? = delays ∧
    delaysTaken before = taken

theorem RestsFor.append {effects more : List Effect} {taken : Nat} {delays : List Span}
    (rests : RestsFor effects taken delays) (silent : more.filterMap Effect.published? = []) :
    RestsFor (effects ++ more) taken (delays ++ more.filterMap Effect.paused?) := by
  obtain ⟨before, between, rfl, unknown, rfl, counted⟩ := rests
  exact ⟨before, between ++ more, by simp, by simp [unknown, silent], by simp, counted⟩

theorem RestsFor.quiet {effects more : List Effect} {taken : Nat} {delays : List Span}
    (rests : RestsFor effects taken delays) (quiet : Quiet more) :
    RestsFor (effects ++ more) taken delays := by
  have longer := rests.append quiet.published
  rwa [quiet.paused, List.append_nil] at longer

theorem RestsFor.delaysTaken_eq {effects : List Effect} {taken : Nat}
    (rests : RestsFor effects taken []) : delaysTaken effects = taken := by
  obtain ⟨before, between, rfl, unknown, unpaused, rfl⟩ := rests
  have quiet : Quiet between := fun effect member =>
    ⟨List.filterMap_eq_nil_iff.mp unknown effect member,
      List.filterMap_eq_nil_iff.mp unpaused effect member⟩
  rw [delaysTaken_append, List.foldl_cons, quiet.foldl_count]
  rfl

/-- The delay between two attempts: there is none before the first, and one before every other, as
long as the policy allows after the delays that were taken. -/
def Rested (policy : BackoffPolicy) (effects : List Effect) : Prop :=
  Quiet effects ∨ ∃ taken delay, RestsFor effects taken [delay] ∧ policy.Allows taken delay

theorem Rested.quiet {policy : BackoffPolicy} {effects more : List Effect}
    (rested : Rested policy effects) (quiet : Quiet more) : Rested policy (effects ++ more) := by
  rcases rested with first | ⟨taken, delay, rests, allowed⟩
  · exact .inl fun effect member => (List.mem_append.mp member).elim (first effect) (quiet effect)
  · exact .inr ⟨taken, delay, rests.quiet quiet, allowed⟩

/-! ### Steps -/

/-- The states of the connection that a phase can have. -/
def Phase.Fits : Phase → Connection → Prop
  | .starting, connection | .resting, connection | .parting, connection | .pausing _, connection
  | .stopped, connection => connection = .disconnected
  | .connecting, connection => connection = .connecting
  | .reading, connection | .writing _, connection | .listening, connection =>
    connection = .connected
  | .leaving, _ => True

/-- The delays that a phase has behind it. -/
def Phase.Rests (policy : BackoffPolicy) (effects : List Effect) : Phase → Prop
  | .starting => Quiet effects
  | .resting => Rested policy effects
  | .parting => ∃ taken, RestsFor effects taken []
  | .pausing delay => ∃ taken, RestsFor effects taken [delay] ∧ policy.Allows taken delay
  | _ => True

theorem Phase.Rests.quiet {policy : BackoffPolicy} {effects more : List Effect} {phase : Phase}
    (rests : phase.Rests policy effects) (quiet : Quiet more) :
    phase.Rests policy (effects ++ more) := by
  cases phase with
  | starting =>
    exact fun effect member => (List.mem_append.mp member).elim (rests effect) (quiet effect)
  | resting => exact Rested.quiet rests quiet
  | parting =>
    obtain ⟨taken, rests⟩ := rests
    exact ⟨taken, rests.quiet quiet⟩
  | pausing delay =>
    obtain ⟨taken, rests, allowed⟩ := rests
    exact ⟨taken, rests.quiet quiet, allowed⟩
  | _ => trivial

/-- Where a consumer stands after the effects of its run. -/
structure Standing (policy : BackoffPolicy) (consumer : Consumer) (effects : List Effect) : Prop where
  course : Course consumer.connection (states effects)
  fits : consumer.phase.Fits consumer.connection
  kept : consumer.backoff.policy = policy
  counted : consumer.backoff.failures = min (delaysTaken effects) Backoff.mostFailures
  rests : consumer.phase.Rests policy effects

variable {policy : BackoffPolicy} {consumer next : Consumer} {event : Event}
  {effects more : List Effect}

theorem states_append (effects more : List Effect) :
    states (effects ++ more) = states effects ++ more.filterMap Effect.published? := by
  simp [states]

theorem publish_of_ne {connection : Connection} (other : consumer.connection ≠ connection) :
    consumer.publish connection = ({ consumer with connection }, [.published connection]) :=
  if_neg other

theorem published_publish (consumer : Consumer) (connection : Connection) :
    (consumer.publish connection).2.filterMap Effect.published? =
      if connection = consumer.connection then [] else [connection] := by
  by_cases same : consumer.connection = connection
  · rw [publish, if_pos same, if_pos same.symm]
    rfl
  · rw [publish_of_ne same, if_neg (Ne.symm same)]
    rfl

theorem connection_publish (consumer : Consumer) (connection : Connection) :
    (consumer.publish connection).1.connection = connection := by
  by_cases same : consumer.connection = connection
  · rw [publish, if_pos same]
    exact same
  · rw [publish_of_ne same]

theorem close_of_ne (open_ : consumer.connection ≠ .disconnected) (phase : Phase)
    (lines : List Effect) : consumer.close phase lines =
      ({ consumer with connection := .disconnected, phase },
        .published .disconnected :: lines) := by
  rw [close, publish_of_ne open_]
  rfl

theorem close_of_disconnected (closed : consumer.connection = .disconnected) (phase : Phase)
    (lines : List Effect) : consumer.close phase lines = ({ consumer with phase }, lines) := by
  rw [close, publish, if_pos closed]
  rfl

theorem enter_of_connecting (attempted : consumer.connection = .connecting) :
    consumer.enter =
      ({ consumer with
          connection := .connected, backoff := consumer.backoff.reset, phase := .reading },
        [.published .connected, line .info s!"Connected to {consumer.url}"]) := by
  rw [enter, publish_of_ne (by rw [attempted]; decide)]
  rfl

namespace Standing

/-- The connection and the count of delays stay, whatever else changes. -/
theorem stay (standing : Standing policy consumer effects)
    (connection : next.connection = consumer.connection) (backoff : next.backoff = consumer.backoff)
    (fits : next.phase.Fits consumer.connection) (rests : next.phase.Rests policy effects)
    (quiet : Quiet more) : Standing policy next (effects ++ more) where
  course := by
    rw [states_append, quiet.published, List.append_nil, connection]
    exact standing.course
  fits := by rwa [connection]
  kept := by rw [backoff, standing.kept]
  counted := by
    rw [delaysTaken_append, quiet.foldl_count, backoff]
    exact standing.counted
  rests := rests.quiet quiet

theorem close (standing : Standing policy consumer effects)
    (open_ : consumer.connection ≠ .disconnected) (phase : Phase) {lines : List Effect}
    (fits : phase.Fits .disconnected)
    (rests : ∀ effects taken, RestsFor effects taken [] → phase.Rests policy effects)
    (quiet : Quiet lines) :
    Standing policy (consumer.close phase lines).1 (effects ++ (consumer.close phase lines).2) := by
  have split : effects ++ .published .disconnected :: lines =
      effects ++ [.published .disconnected] ++ lines := by simp
  have parted : RestsFor (effects ++ [.published .disconnected]) (delaysTaken effects) [] :=
    ⟨effects, [], rfl, rfl, rfl, rfl⟩
  rw [close_of_ne open_, split]
  refine ⟨?_, fits, standing.kept, ?_, rests _ _ (parted.quiet quiet)⟩
  · rw [states_append, states_append, quiet.published, List.append_nil]
    exact .disconnected (standing.course.close open_)
  · rw [delaysTaken_append, delaysTaken_append, quiet.foldl_count]
    exact standing.counted

/-- A session or an attempt is over, and the next delay is still to be decided on. -/
theorem part (standing : Standing policy consumer effects)
    (open_ : consumer.connection ≠ .disconnected) {lines : List Effect} (quiet : Quiet lines) :
    Standing policy (consumer.close .parting lines).1
      (effects ++ (consumer.close .parting lines).2) :=
  standing.close open_ .parting rfl (fun _ taken rests => ⟨taken, rests⟩) quiet

theorem connect (standing : Standing policy consumer effects)
    (resting : consumer.phase = .resting) {lines : List Effect} (quiet : Quiet lines) :
    Standing policy { (consumer.publish .connecting).1 with phase := .connecting }
      (effects ++ ((consumer.publish .connecting).2 ++ lines)) := by
  have closed : consumer.connection = .disconnected := by
    have fits := standing.fits
    rwa [resting] at fits
  have course := standing.course
  rw [closed] at course
  cases course with
  | disconnected complete =>
    rw [publish_of_ne (by rw [closed]; decide), ← List.append_assoc]
    refine ⟨?_, rfl, standing.kept, ?_, trivial⟩
    · rw [states_append, states_append, quiet.published, List.append_nil]
      exact .connecting complete
    · rw [delaysTaken_append, delaysTaken_append, quiet.foldl_count]
      exact standing.counted

theorem enter (standing : Standing policy consumer effects)
    (connecting : consumer.phase = .connecting) :
    Standing policy consumer.enter.1 (effects ++ consumer.enter.2) := by
  have attempted : consumer.connection = .connecting := by
    have fits := standing.fits
    rwa [connecting] at fits
  have course := standing.course
  rw [attempted] at course
  generalize known : states effects = found at course
  cases course with
  | connecting complete =>
    rw [enter_of_connecting attempted]
    refine ⟨?_, rfl, standing.kept, ?_, trivial⟩
    · rw [states_append, known, List.append_assoc]
      exact .connected complete
    · rw [delaysTaken_append]
      rfl

theorem pause (standing : Standing policy consumer effects) (parting : consumer.phase = .parting)
    (draw : Nat) :
    Standing policy (consumer.pause draw).1 (effects ++ (consumer.pause draw).2) := by
  have rests := standing.rests
  have fits := standing.fits
  rw [parting] at rests fits
  obtain ⟨taken, rests⟩ := rests
  have allowed := Backoff.allows_next standing.counted draw
  rw [standing.kept, rests.delaysTaken_eq] at allowed
  refine ⟨?_, fits, standing.kept, ?_, taken, rests.append rfl, allowed⟩
  · have same : states (effects ++ (consumer.pause draw).2) = states effects := by
      rw [states_append]
      exact List.append_nil _
    rw [same]
    exact standing.course
  · have more : delaysTaken (effects ++ (consumer.pause draw).2) = delaysTaken effects + 1 := by
      rw [delaysTaken_append]
      rfl
    have counted := standing.counted
    rw [more]
    simp only [Consumer.pause, Backoff.next]
    omega

end Standing

/-- In a session the connection is there. -/
theorem Standing.connected (standing : Standing policy consumer effects)
    (inside : consumer.phase = .reading ∨ consumer.phase = .listening ∨
      ∃ frame, consumer.phase = .writing frame) : consumer.connection = .connected := by
  have fits := standing.fits
  rcases inside with reading | listening | ⟨frame, writing⟩
  · rwa [reading] at fits
  · rwa [listening] at fits
  · rwa [writing] at fits

theorem Standing.disconnected (standing : Standing policy consumer effects)
    (outside : consumer.phase = .starting ∨ consumer.phase = .resting ∨
      consumer.phase = .parting ∨ consumer.phase = .stopped ∨
      ∃ delay, consumer.phase = .pausing delay) : consumer.connection = .disconnected := by
  have fits := standing.fits
  rcases outside with starting | resting | parting | stopped | ⟨delay, pausing⟩
  · rwa [starting] at fits
  · rwa [resting] at fits
  · rwa [parting] at fits
  · rwa [stopped] at fits
  · rwa [pausing] at fits

theorem Quiet.nil : Quiet [] := fun _ member => absurd member List.not_mem_nil

theorem Quiet.line {severity : Severity} {text : String} : Quiet [line severity text] := by
  intro effect member
  rw [List.mem_singleton.mp member]
  exact ⟨rfl, rfl⟩

theorem Quiet.wrote {effects : List Effect} (quiet : Quiet effects) (frame : Outgoing) :
    Quiet (.wrote frame :: effects) := by
  intro effect member
  rcases List.mem_cons.mp member with rfl | behind
  · exact ⟨rfl, rfl⟩
  · exact quiet effect behind

theorem Step.standing (step : Step consumer event next more)
    (before : Standing policy consumer effects) : Standing policy next (effects ++ more) := by
  have fits := before.fits
  have rests := before.rests
  cases step with
  | change | signal | cancel => exact before.stay rfl rfl fits rests .nil
  | start starting =>
    rw [starting] at rests
    exact before.stay rfl rfl (before.disconnected (.inl starting)) (.inl rests) .line
  | quit => exact before.stay rfl rfl trivial trivial .nil
  | connect resting => exact before.connect resting .line
  | skip reading => exact before.stay rfl rfl (before.connected (.inl reading)) trivial .line
  | read reading => exact before.stay rfl rfl (before.connected (.inl reading)) trivial .nil
  | stop leaving =>
    by_cases closed : consumer.connection = .disconnected
    · rw [close_of_disconnected closed]
      exact before.stay rfl rfl closed trivial .line
    · exact before.close closed .stopped rfl (fun _ _ _ => trivial) .line
  | enter connecting => exact before.enter connecting
  | refused cause connecting =>
    rw [connecting] at fits
    exact before.part (by rw [fits]; decide) .line
  | text | binary => exact before.stay rfl rfl fits rests (.logs _)
  | pong => exact before.stay rfl rfl fits rests .nil
  | ping payload listening =>
    exact before.stay rfl rfl (before.connected (.inr (.inl listening))) trivial .nil
  | closed _ listening | failed _ listening =>
    have connected := before.connected (.inr (.inl listening))
    exact before.part (by rw [connected]; decide) .line
  | resubscribe listening =>
    exact before.stay rfl rfl (before.connected (.inr (.inl listening))) trivial .nil
  | subscribed writing =>
    have connected := before.connected (.inr (.inr ⟨_, writing⟩))
    exact before.stay rfl rfl connected trivial (Quiet.line.wrote _)
  | ponged writing =>
    have connected := before.connected (.inr (.inr ⟨_, writing⟩))
    exact before.stay rfl rfl connected trivial (Quiet.nil.wrote _)
  | parted writing =>
    have connected := before.connected (.inr (.inr ⟨_, writing⟩))
    have written := before.stay rfl rfl fits rests (Quiet.nil.wrote .close)
    have closed := written.close (by rw [connected]; decide) .leaving trivial
      (fun _ _ _ => trivial) .nil
    rwa [List.append_assoc] at closed
  | unwritten _ writing =>
    have connected := before.connected (.inr (.inr ⟨_, writing⟩))
    exact before.part (by rw [connected]; decide) .line
  | unparted cause writing =>
    have connected := before.connected (.inr (.inr ⟨_, writing⟩))
    have line : Quiet [line .debug s!"Failed to send close frame: {cause}"] := .line
    have told := before.stay rfl rfl fits rests line
    have closed := told.close (by rw [connected]; decide) .leaving trivial
      (fun _ _ _ => trivial) .nil
    rwa [List.append_assoc] at closed
  | pause draw parting => exact before.pause parting draw
  | awake pausing =>
    rw [pausing] at rests
    obtain ⟨taken, rests, allowed⟩ := rests
    have closed := before.disconnected (.inr (.inr (.inr (.inr ⟨_, pausing⟩))))
    exact before.stay rfl rfl closed (.inr ⟨taken, _, rests, allowed⟩) .nil
  | leave => exact before.stay rfl rfl trivial trivial .nil
  | part cancelled listening =>
    exact before.stay rfl rfl (before.connected (.inr (.inl listening))) trivial .nil

theorem Standing.start (settings : Settings) :
    Standing settings.backoff (ofSettings settings) [] where
  course := .disconnected .start
  fits := rfl
  kept := rfl
  counted := rfl
  rests := .nil

theorem standing_of_run {settings : Settings} {events : List Event}
    (run : (ofSettings settings).run? events = some (consumer, effects)) :
    Standing settings.backoff consumer effects := by
  refine runs.induction (fun _ consumer effects => Standing settings.backoff consumer effects)
    (.start settings) ?_ run
  intro events consumer effects event next more before _ stepped
  exact (step_of_step? stepped).standing before

end Consumer

end FeedMonitor.Feed
