import FeedMonitor.Proofs.Feed.Reconnection
import FeedMonitor.Proofs.Feed.Resubscription

/-!
What a session writes, and what ends it.

A session answers a ping with a pong and a permit with the symbols in force; no frame of text or bytes
is answered. Each step that does not end the session keeps what is written, together with the frame in
hand, equal to what the events ask for, so a run does.
-/

namespace FeedMonitor.Feed

theorem Subscription.symbols_of_signal? {subscription next : Subscription}
    (signalled : subscription.signal? = some next) : next.symbols = subscription.symbols := by
  unfold signal? at signalled
  split at signalled
  · contradiction
  · cases signalled
    rfl

theorem Subscription.symbols_of_take? {subscription next : Subscription}
    (taken : subscription.take? = some next) : next.symbols = subscription.symbols := by
  unfold take? at taken
  split at taken
  · cases taken
    rfl
  · contradiction

/-- Whether a frame carries something to be read. -/
def Incoming.carries : Incoming → Bool
  | .text _ | .binary _ => true
  | _ => false

namespace Consumer

/-- Whether an event is the end of a session. A cancellation ends it when it is seen. -/
def Event.ends : Event → Bool
  | .received .close | .ended | .failed _ | .leave | .unwritten _ => true
  | _ => false

def Event.symbols (symbols : SymbolSet) : Event → SymbolSet
  | .change made => (made.apply symbols).2
  | _ => symbols

/-- The frames that an event of a session asks for while `symbols` are in force. A session goes on
only to read the symbols that it has to subscribe to. -/
def Event.owed (symbols : SymbolSet) : Event → List Outgoing
  | .goOn => if symbols.isEmpty then [] else [.subscribe symbols]
  | .received (.ping payload) => [.pong payload]
  | _ => []

def symbolsAfter (symbols : SymbolSet) (events : List Event) : SymbolSet :=
  events.foldl Event.symbols symbols

def owed (symbols : SymbolSet) : List Event → List Outgoing
  | [] => []
  | event :: rest => event.owed symbols ++ owed (event.symbols symbols) rest

theorem owed_concat (symbols : SymbolSet) (events : List Event) (event : Event) :
    owed symbols (events ++ [event]) =
      owed symbols events ++ event.owed (symbolsAfter symbols events) := by
  induction events generalizing symbols with
  | nil => exact List.append_nil _
  | cons first rest ih =>
    rw [List.cons_append, owed, ih, owed, List.append_assoc]
    rfl

/-- The frame that a phase is about to write. -/
def Phase.inHand : Phase → List Outgoing
  | .writing frame => [frame]
  | _ => []

/-- The readings of the symbols that a phase has still to do. -/
def Phase.unread : Phase → Nat
  | .reading => 1
  | _ => 0

/-- Phases of a session that nothing has ended. -/
def Phase.Open (phase : Phase) : Prop := phase.InSession ∧ phase ≠ .writing .close

def Awaits (consumer : Consumer) : Event → Prop
  | .received _ | .ended | .failed _ => consumer.phase = .listening
  | .resubscribe => consumer.phase = .listening ∧ consumer.subscription.permit = true
  | .leave => consumer.phase = .listening ∧ consumer.cancelled = true
  | .goOn => consumer.phase = .reading
  | .written | .unwritten _ => ∃ frame, consumer.phase = .writing frame
  | .signal => consumer.subscription.unsignalled ≠ 0
  | .change _ | .cancel => True
  | .connected | .refused _ | .pause _ | .awake => False

/-- A session that goes on, after some events and their effects. -/
structure Goes (symbols : SymbolSet) (events : List Event) (consumer : Consumer)
    (effects : List Effect) : Prop where
  open_ : consumer.phase.Open
  connected : consumer.connection = .connected
  inForce : consumer.subscription.symbols = symbolsAfter symbols events
  written : effects.filterMap Effect.wrote? ++ consumer.phase.inHand = owed symbols events
  /-- The symbols are read at the start and once for each permit. -/
  read : events.count .goOn + consumer.phase.unread = events.count .resubscribe + 1
  awaits : ∀ event, (consumer.step? event).isSome ↔ consumer.Awaits event
  /-- Whatever a frame carries, it is taken and not answered, and the session listens on. -/
  heard : consumer.phase = .listening → ∀ frame, frame.carries = true → ∃ next more,
    consumer.step? (.received frame) = some (next, more) ∧ next.phase = .listening ∧
      more.filterMap Effect.wrote? = []

variable {consumer next : Consumer} {event : Event} {effects more : List Effect}

theorem Phase.Open.cases {phase : Phase} (inside : phase.Open) :
    phase = .reading ∨ phase = .listening ∨ ∃ frame, phase = .writing frame ∧ frame ≠ .close := by
  obtain ⟨session, unparted⟩ := inside
  cases phase with
  | reading => exact .inl rfl
  | listening => exact .inr (.inl rfl)
  | writing frame => exact .inr (.inr ⟨frame, rfl, fun same => unparted (same ▸ rfl)⟩)
  | _ => exact session.elim

theorem isSome_step?_iff (inside : consumer.phase.Open) (event : Event) :
    (consumer.step? event).isSome ↔ consumer.Awaits event := by
  rcases inside.cases with reading | listening | ⟨frame, writing, -⟩
  · cases event with
    | goOn =>
      simp only [step?, goOn, Awaits, reading]
      split <;> simp
    | _ => simp [step?, Awaits, leave, Subscription.signal?, reading]
  · cases event <;>
      simp [step?, Awaits, goOn, leave, Subscription.signal?, Subscription.take?, listening]
  · cases event <;> simp [step?, Awaits, goOn, leave, Subscription.signal?, writing]

theorem wrote_logs (journal : Journal) : (journal.map Effect.log).filterMap Effect.wrote? = [] := by
  rw [List.filterMap_map]
  exact List.filterMap_eq_nil_iff.mpr fun _ _ => rfl

theorem step?_of_carries (listening : consumer.phase = .listening) {frame : Incoming}
    (carries : frame.carries = true) :
    ∃ next more, consumer.step? (.received frame) = some (next, more) ∧ next.phase = .listening ∧
      more.filterMap Effect.wrote? = [] := by
  have stepped : consumer.step? (.received frame) = some (consumer.receive frame) := by
    simp only [step?, listening]
  refine ⟨_, _, stepped, ?_⟩
  cases frame with
  | text text => exact ⟨listening, wrote_logs _⟩
  | binary bytes => exact ⟨listening, wrote_logs _⟩
  | ping | pong | close => cases carries

/-! ### One step of a session -/

structure Proceeds (consumer : Consumer) (event : Event) (next : Consumer) (more : List Effect) :
    Prop where
  open_ : next.phase.Open
  connection : next.connection = consumer.connection
  symbols : next.subscription.symbols = event.symbols consumer.subscription.symbols
  written : more.filterMap Effect.wrote? ++ next.phase.inHand =
    consumer.phase.inHand ++ event.owed consumer.subscription.symbols
  read : [event].count .goOn + next.phase.unread = [event].count .resubscribe + consumer.phase.unread

theorem Step.proceeds (step : Step consumer event next more) (inside : consumer.phase.Open)
    (goesOn : event.ends = false) : consumer.Proceeds event next more := by
  cases step with
  | change made => exact ⟨inside, rfl, rfl, (List.append_nil _).symm, rfl⟩
  | signal signalled =>
    have same := Subscription.symbols_of_signal? signalled
    exact ⟨inside, rfl, same, (List.append_nil _).symm, rfl⟩
  | cancel => exact ⟨inside, rfl, rfl, (List.append_nil _).symm, rfl⟩
  | skip reading empty =>
    have owed : Event.owed consumer.subscription.symbols .goOn = [] := if_pos empty
    refine ⟨⟨trivial, by simp⟩, rfl, rfl, ?_, ?_⟩
    · rw [reading, owed]
      rfl
    · rw [reading]
      rfl
  | read reading wanted =>
    have owed : Event.owed consumer.subscription.symbols .goOn =
        [.subscribe consumer.subscription.symbols] := if_neg (by simp [wanted])
    refine ⟨⟨trivial, by simp⟩, rfl, rfl, ?_, ?_⟩
    · rw [reading, owed]
      rfl
    · rw [reading]
      rfl
  | text text listening | binary bytes listening =>
    refine ⟨inside, rfl, rfl, ?_, rfl⟩
    rw [wrote_logs, listening]
    rfl
  | ping payload listening =>
    refine ⟨⟨trivial, by simp⟩, rfl, rfl, ?_, ?_⟩
    · rw [listening]
      rfl
    · rw [listening]
      rfl
  | pong payload listening => exact ⟨inside, rfl, rfl, (List.append_nil _).symm, rfl⟩
  | closed final listening => rcases final with rfl | rfl <;> cases goesOn
  | failed | unwritten | unparted | leave | part => cases goesOn
  | resubscribe listening taken =>
    refine ⟨⟨trivial, by simp⟩, rfl, Subscription.symbols_of_take? taken, ?_, ?_⟩
    · rw [listening]
      rfl
    · rw [listening]
      rfl
  | subscribed writing | ponged writing =>
    refine ⟨⟨trivial, by simp⟩, rfl, rfl, ?_, ?_⟩
    · rw [writing]
      rfl
    · rw [writing]
      rfl
  | parted writing => exact absurd writing inside.2
  | start phase | quit phase | connect phase | stop phase | enter phase | refused _ phase
  | pause _ phase | awake phase =>
    obtain ⟨session, -⟩ := inside
    rw [phase] at session
    exact session.elim

theorem Goes.step {symbols : SymbolSet} {events : List Event}
    (goes : Goes symbols events consumer effects) (proceeds : consumer.Proceeds event next more) :
    Goes symbols (events ++ [event]) next (effects ++ more) := by
  have current := goes.inForce
  refine ⟨proceeds.open_, proceeds.connection.trans goes.connected, ?_, ?_, ?_,
    isSome_step?_iff proceeds.open_, fun listening _ => step?_of_carries listening⟩
  · rw [proceeds.symbols, current, symbolsAfter, symbolsAfter, List.foldl_append]
    rfl
  · rw [List.filterMap_append, List.append_assoc, proceeds.written, ← List.append_assoc,
      goes.written, owed_concat, current]
  · have before := goes.read
    have here := proceeds.read
    rw [List.count_append, List.count_append]
    omega

theorem enter_of_step? {entered : Consumer} {first : List Effect}
    (connected : consumer.step? .connected = some (entered, first)) : entered = consumer.enter.1 := by
  cases step_of_step? connected with
  | enter => rfl
  | closed final => rcases final with impossible | impossible <;> cases impossible

theorem Goes.start (consumer : Consumer) :
    Goes consumer.subscription.symbols [] consumer.enter.1 [] := by
  have reading : consumer.enter.1.phase = .reading := rfl
  have open_ : consumer.enter.1.phase.Open := ⟨trivial, by simp [reading]⟩
  have same : (consumer.publish .connected).1.subscription = consumer.subscription := by
    unfold publish
    split <;> rfl
  exact ⟨open_, connection_publish consumer .connected, congrArg Subscription.symbols same, rfl, rfl,
    isSome_step?_iff open_, fun listening _ => step?_of_carries listening⟩

theorem goes_of_run {events : List Event}
    (run : consumer.enter.1.run? events = some (next, effects))
    (goOn : ∀ event ∈ events, event.ends = false) :
    Goes consumer.subscription.symbols events next effects := by
  -- The events stay in the statement, since a longer run has more of them that could end the session.
  revert goOn
  refine runs.induction (fun events next effects => (∀ event ∈ events, event.ends = false) →
    Goes consumer.subscription.symbols events next effects) (fun _ => .start consumer) ?_ run
  intro events middle effects event next more before _ stepped goOn
  have goes := before fun event member => goOn event (List.mem_append_left _ member)
  have other := goOn event (List.mem_append_right _ List.mem_cons_self)
  exact goes.step ((step_of_step? stepped).proceeds goes.open_ other)

/-! ### The end of a session -/

theorem wrote_publish (consumer : Consumer) (connection : Connection) :
    (consumer.publish connection).2.filterMap Effect.wrote? = [] := by
  unfold publish
  split <;> rfl

theorem wrote_close (consumer : Consumer) (phase : Phase) (lines : List Effect) :
    (consumer.close phase lines).2.filterMap Effect.wrote? = lines.filterMap Effect.wrote? := by
  simp only [close, List.filterMap_append, wrote_publish, List.nil_append]

theorem connection_close (consumer : Consumer) (phase : Phase) (lines : List Effect) :
    (consumer.close phase lines).1.connection = .disconnected :=
  connection_publish consumer .disconnected

theorem Step.ended (step : Step consumer event next more) (inside : consumer.phase.Open)
    (final : event.ends = true) :
    more.filterMap Effect.wrote? = [] ∧
      (event ≠ .leave → next.phase = .parting ∧ next.connection = .disconnected) ∧
      (event = .leave → next.phase = .writing .close) := by
  cases step with
  | closed here =>
    refine ⟨wrote_close .., fun _ => ⟨rfl, connection_close ..⟩, fun left => ?_⟩
    rw [left] at here
    rcases here with impossible | impossible <;> cases impossible
  | failed | unwritten =>
    refine ⟨wrote_close .., fun _ => ⟨rfl, connection_close ..⟩, fun left => ?_⟩
    cases left
  | part => exact ⟨rfl, fun other => absurd rfl other, fun _ => rfl⟩
  | unparted cause writing => exact absurd writing inside.2
  | leave cancelled waiting =>
    obtain ⟨session, -⟩ := inside
    rcases waiting with phase | ⟨delay, phase⟩ <;> (rw [phase] at session; exact session.elim)
  | _ => cases final

theorem Step.wrote_outside (step : Step consumer event next more)
    (outside : ¬consumer.phase.InSession) :
    more.filterMap Effect.wrote? = [] ∧ event ≠ .written := by
  cases step with
  | change | signal | cancel | quit | awake | leave => exact ⟨rfl, by simp⟩
  | start => exact ⟨rfl, by simp⟩
  | connect | enter => exact ⟨by simp [Consumer.enter, wrote_publish, line, Effect.wrote?], by simp⟩
  | stop | refused => exact ⟨wrote_close .., by simp⟩
  | pause => exact ⟨rfl, by simp⟩
  | skip phase | read phase | text _ phase | binary _ phase | ping _ phase | pong _ phase
  | closed _ phase | failed _ phase | resubscribe phase | subscribed phase | ponged phase
  | parted phase | unwritten _ phase | unparted _ phase | part _ phase =>
    rw [phase] at outside
    exact absurd trivial outside

theorem wrote_outside {events : List Event} (outside : ¬consumer.phase.InSession)
    (unconnected : .connected ∉ events) (run : consumer.run? events = some (next, effects)) :
    effects.filterMap Effect.wrote? = [] ∧ .written ∉ events := by
  induction events generalizing consumer effects with
  | nil =>
    rw [runs.nil] at run
    cases run
    exact ⟨rfl, List.not_mem_nil⟩
  | cons event rest ih =>
    obtain ⟨middle, first, more, stepped, ran, rfl⟩ := runs.cons_iff.mp run
    have step := step_of_step? stepped
    have other : event ≠ .connected := fun same => unconnected (same ▸ List.mem_cons_self)
    obtain ⟨silent, unwritten⟩ := step.wrote_outside outside
    have still : ¬middle.phase.InSession := fun inside =>
      (step.inSession inside).elim (fun entered => other entered.1) (fun before => outside before.2)
    obtain ⟨quiet, never⟩ := ih still (fun member => unconnected (List.mem_cons_of_mem _ member)) ran
    refine ⟨by rw [List.filterMap_append, silent, quiet]; rfl, fun member => ?_⟩
    rcases List.mem_cons.mp member with here | behind
    · exact unwritten here.symm
    · exact never behind

/-- Cancelled, and done with the last session. -/
def Leaves (consumer : Consumer) : Prop :=
  (consumer.phase = .leaving ∨ consumer.phase = .stopped) ∧ consumer.connection = .disconnected

theorem Step.leaves (step : Step consumer event next more) (leaves : consumer.Leaves) :
    next.Leaves ∧ event ≠ .connected := by
  obtain ⟨phase, closed⟩ := leaves
  cases step with
  | change | signal | cancel => exact ⟨⟨phase, closed⟩, by simp⟩
  | stop => exact ⟨⟨.inr rfl, connection_close ..⟩, by simp⟩
  | leave _ waiting =>
    rcases phase with here | here <;> rcases waiting with there | ⟨_, there⟩ <;>
      (rw [here] at there; cases there)
  | _ => simp_all

theorem leaves_of_run {events : List Event} (leaves : consumer.Leaves)
    (run : consumer.run? events = some (next, effects)) : next.Leaves ∧ .connected ∉ events := by
  refine runs.induction (fun events next _ => next.Leaves ∧ .connected ∉ events)
    ⟨leaves, List.not_mem_nil⟩ ?_ run
  intro events middle effects event next more before _ stepped
  obtain ⟨still, other⟩ := (step_of_step? stepped).leaves before.1
  refine ⟨still, fun member => ?_⟩
  rcases List.mem_append.mp member with earlier | here
  · exact before.2 earlier
  · exact other (List.mem_singleton.mp here).symm

theorem Step.of_farewell (step : Step consumer event next more)
    (writing : consumer.phase = .writing .close) :
    (event ≠ .written ∧ more = [] ∧ next.phase = .writing .close) ∨
      (next.Leaves ∧ more.filterMap Effect.wrote? = if event = .written then [.close] else []) := by
  cases step with
  | change | signal | cancel => exact .inl ⟨by simp, rfl, writing⟩
  | parted =>
    refine .inr ⟨⟨.inl rfl, connection_close ..⟩, ?_⟩
    have frame : Effect.wrote? (.wrote .close) = some .close := rfl
    rw [if_pos rfl, List.filterMap_cons_some frame, wrote_close]
    rfl
  | unparted cause =>
    refine .inr ⟨⟨.inl rfl, connection_close ..⟩, ?_⟩
    have told : Effect.wrote? (line .debug s!"Failed to send close frame: {cause}") = none := rfl
    rw [if_neg (by simp), List.filterMap_cons_none told, wrote_close]
    rfl
  | _ => simp_all

theorem wrote_farewell {events : List Event} (writing : consumer.phase = .writing .close)
    (run : consumer.run? events = some (next, effects)) :
    effects.filterMap Effect.wrote? = (if .written ∈ events then [.close] else []) ∧
      (next.phase = .writing .close ∨ next.Leaves) := by
  induction events generalizing consumer effects with
  | nil =>
    rw [runs.nil] at run
    cases run
    exact ⟨rfl, .inl writing⟩
  | cons event rest ih =>
    obtain ⟨middle, first, more, stepped, ran, rfl⟩ := runs.cons_iff.mp run
    rw [List.filterMap_append]
    -- The frame stays in hand until it is written or fails. No connection comes after that, so
    -- neither does another frame.
    rcases (step_of_step? stepped).of_farewell writing with ⟨other, rfl, still⟩ | ⟨leaves, wrote⟩
    · obtain ⟨later, last⟩ := ih still ran
      refine ⟨?_, last⟩
      rw [later]
      simp [Ne.symm other]
    · obtain ⟨last, unconnected⟩ := leaves_of_run leaves ran
      have outside : ¬middle.phase.InSession := by
        rcases leaves.1 with phase | phase <;> (rw [phase]; exact id)
      obtain ⟨silent, never⟩ := wrote_outside outside unconnected ran
      refine ⟨?_, .inr last⟩
      rw [wrote, silent, List.append_nil]
      simp [never, eq_comm]

/-- A session that `event` has ended, and what is written from then on. Until another session begins
that is nothing, but for the frame that closes a session which was cancelled. -/
structure Over (event : Event) (ended : Consumer) (after : List Event) (last : Consumer)
    (later : List Effect) : Prop where
  parted : event ≠ .leave → ended.phase = .parting ∧ ended.connection = .disconnected ∧
    (.connected ∉ after → later.filterMap Effect.wrote? = [])
  cancelled : event = .leave → ended.phase = .writing .close ∧
    later.filterMap Effect.wrote? = (if .written ∈ after then [.close] else []) ∧
    (last.phase = .writing .close ∨ last.Leaves)

theorem over_of_step {after : List Event} {last : Consumer} {later : List Effect}
    (step : Step consumer event next more) (inside : consumer.phase.Open)
    (final : event.ends = true) (run : next.run? after = some (last, later)) :
    Over event next after last later := by
  obtain ⟨-, parted, cancelled⟩ := step.ended inside final
  constructor
  · intro other
    obtain ⟨phase, connection⟩ := parted other
    have outside : ¬next.phase.InSession := by
      rw [phase]
      exact id
    exact ⟨phase, connection, fun unconnected => (wrote_outside outside unconnected run).1⟩
  · intro left
    have writing := cancelled left
    obtain ⟨wrote, phase⟩ := wrote_farewell writing run
    exact ⟨writing, wrote, phase⟩

/-- A run from the start of a session: it goes on, or the first event that ends it has come. -/
inductive Exchange (symbols : SymbolSet) (entered : Consumer) :
    List Event → Consumer → List Effect → Prop
  | goesOn {events : List Event} {consumer : Consumer} {effects : List Effect}
      (unended : ∀ event ∈ events, event.ends = false)
      (goes : Goes symbols events consumer effects) : Exchange symbols entered events consumer effects
  | breaksOff {before after : List Event} {event : Event} {consumer ended last : Consumer}
      {earlier more later : List Effect} (unended : ∀ event ∈ before, event.ends = false)
      (ran : entered.run? before = some (consumer, earlier))
      (goes : Goes symbols before consumer earlier) (final : event.ends = true)
      (stepped : consumer.step? event = some (ended, more))
      (silent : more.filterMap Effect.wrote? = []) (goneOn : ended.run? after = some (last, later))
      (aftermath : Over event ended after last later) :
      Exchange symbols entered (before ++ event :: after) last (earlier ++ (more ++ later))

theorem session_exchange {entered last : Consumer} {first : List Effect} {events : List Event}
    (connected : consumer.step? .connected = some (entered, first))
    (run : entered.run? events = some (last, effects)) :
    Exchange consumer.subscription.symbols entered events last effects := by
  cases enter_of_step? connected
  cases found : events.find? Event.ends with
  | none =>
    have unended : ∀ event ∈ events, event.ends = false := by simpa using found
    exact .goesOn unended (goes_of_run run unended)
  | some event =>
    obtain ⟨final, before, after, rfl, others⟩ := List.find?_eq_some_iff_append.mp found
    have unended : ∀ event ∈ before, event.ends = false := by simpa using others
    obtain ⟨middle, earlier, rest, ran, went, rfl⟩ := runs.append_iff.mp run
    obtain ⟨ended, more, later, stepped, goneOn, rfl⟩ := runs.cons_iff.mp went
    have goes := goes_of_run ran unended
    have step := step_of_step? stepped
    obtain ⟨silent, -⟩ := step.ended goes.open_ final
    exact .breaksOff unended ran goes final stepped silent goneOn
      (over_of_step step goes.open_ final goneOn)

/-- Frames of all kinds come, symbols are added while the first subscription is written, and the
session is cancelled. -/
def chatter : List Event :=
  [.goOn, .change (.add ["beta"]), .signal, .written, .received (.text "not json"),
    .received (.binary [0xff]), .received (.ping [1, 2]), .written, .received (.pong [3]),
    .resubscribe, .goOn, .written, .received (.text "[]"), .cancel, .leave, .written, .goOn]

def dialing : Consumer :=
  { ofSettings ⟨"wss://feed", .ofNames ["ALPHA"], default⟩ with
    connection := .connecting, phase := .connecting }

theorem session_exchange_chatter :
    ∃ entered first last effects, dialing.step? .connected = some (entered, first) ∧
      entered.run? chatter = some (last, effects) ∧
      effects.filterMap Effect.wrote? = [.subscribe (.ofNames ["ALPHA"]), .pong [1, 2],
        .subscribe (.ofNames ["ALPHA", "BETA"]), .close] ∧
      Exchange dialing.subscription.symbols entered chatter last effects := by
  have ran : (dialing.enter.1.run? chatter).map (fun result =>
      result.2.filterMap Effect.wrote?) = some [.subscribe (.ofNames ["ALPHA"]), .pong [1, 2],
        .subscribe (.ofNames ["ALPHA", "BETA"]), .close] := by
    decide +kernel
  obtain ⟨⟨last, effects⟩, run, wrote⟩ := Option.map_eq_some_iff.mp ran
  exact ⟨_, _, last, effects, rfl, run, wrote, session_exchange rfl run⟩

end Consumer

end FeedMonitor.Feed
