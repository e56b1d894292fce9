import FeedMonitor.Proofs.Feed.Run

/-!
No change of the subscription is lost.

A session that waits for what comes next has sent the symbols in force, unless there are none, or
somebody has still to signal a change, or a signal waits to be taken. So it is whenever a change is
written: while the session reads the symbols, while it writes a frame, or between two sessions.
-/

namespace FeedMonitor.SymbolSet

theorem eq_of_names {symbols other : SymbolSet} (same : symbols.names = other.names) :
    symbols = other := by
  cases symbols
  cases other
  cases same
  rfl

theorem insertName_eq_or (name : String) (names : List String) :
    insertName name names = names ∨ (insertName name names).length = names.length + 1 := by
  induction names with
  | nil => exact .inr rfl
  | cons other rest ih =>
    simp only [insertName]
    split
    · exact .inr rfl
    · split
      · exact .inl rfl
      · rcases ih with same | longer
        · exact .inl (by rw [same])
        · exact .inr (by rw [List.length_cons, longer, List.length_cons])

theorem insert_eq_or (symbols : SymbolSet) (name : String) :
    symbols.insert name = symbols ∨ (symbols.insert name).size = symbols.size + 1 := by
  rcases insertName_eq_or name symbols.names with same | longer
  · exact .inl (eq_of_names same)
  · exact .inr longer

theorem size_le_union (symbols : SymbolSet) (names : List String) :
    symbols.size ≤ (symbols.union names).size := by
  induction names generalizing symbols with
  | nil => exact Nat.le_refl _
  | cons name rest ih =>
    have later := ih (symbols.insert name)
    have grown : symbols.size ≤ (symbols.insert name).size := by
      rcases symbols.insert_eq_or name with same | longer
      · exact Nat.le_of_eq (congrArg size same).symm
      · omega
    exact Nat.le_trans grown later

/-- A set that has not grown is the set that it was. -/
theorem union_eq_of_size {symbols : SymbolSet} {names : List String}
    (size : (symbols.union names).size = symbols.size) : symbols.union names = symbols := by
  induction names generalizing symbols with
  | nil => rfl
  | cons name rest ih =>
    have split : symbols.union (name :: rest) = (symbols.insert name).union rest := rfl
    have later := (symbols.insert name).size_le_union rest
    rw [split] at size ⊢
    rcases symbols.insert_eq_or name with same | longer
    · rw [same] at size ⊢
      exact ih size
    · omega

end FeedMonitor.SymbolSet

namespace FeedMonitor.Feed

namespace Subscription

/-- Whether somebody will be told of a change. -/
def Pending (subscription : Subscription) : Prop :=
  subscription.permit = true ∨ subscription.unsignalled ≠ 0

theorem Change.apply_of_unchanged {change : Change} {symbols : SymbolSet}
    (unchanged : (change.apply symbols).1 = false) : (change.apply symbols).2 = symbols := by
  cases change with
  | add texts =>
    have size : (symbols.union (SymbolSet.normalize texts)).size = symbols.size := by
      simpa [Change.apply] using unchanged
    exact SymbolSet.union_eq_of_size size
  | replace texts =>
    simp only [Change.apply] at unchanged ⊢
    split at unchanged
    · rename_i same
      rw [if_pos same]
    · contradiction

/-- What is true of the symbols stays true, or somebody will be told that it may not be. -/
theorem write_keeps {holds : SymbolSet → Prop} {subscription : Subscription} (change : Change)
    (before : holds subscription.symbols ∨ subscription.Pending) :
    holds (subscription.write change).2.symbols ∨ (subscription.write change).2.Pending := by
  cases changed : (change.apply subscription.symbols).1 with
  | true =>
    right
    right
    simp [write, changed]
  | false =>
    have same : (subscription.write change).2 = subscription := by
      simp [write, changed, Change.apply_of_unchanged changed]
    rwa [same]

theorem pending_of_signal {subscription next : Subscription}
    (signalled : subscription.signal? = some next) : next.Pending := by
  unfold signal? at signalled
  split at signalled
  · contradiction
  · cases signalled
    exact .inl rfl

end Subscription

namespace Consumer

/-- The symbols of a subscription that is sent. -/
def Effect.subscribed? : Effect → Option SymbolSet
  | .wrote (.subscribe symbols) => some symbols
  | _ => none

/-- The symbols that were sent last. -/
def lastSubscribed (effects : List Effect) : Option SymbolSet :=
  (effects.filterMap Effect.subscribed?).getLast?

theorem lastSubscribed_append (effects more : List Effect) :
    lastSubscribed (effects ++ more) = (lastSubscribed more).or (lastSubscribed effects) := by
  rw [lastSubscribed, List.filterMap_append, List.getLast?_append]
  rfl

theorem lastSubscribed_logs (journal : Journal) : lastSubscribed (journal.map .log) = none := by
  have none : (journal.map Effect.log).filterMap Effect.subscribed? = [] := by
    rw [List.filterMap_map]
    exact List.filterMap_eq_nil_iff.mpr fun _ _ => rfl
  rw [lastSubscribed, none]
  rfl

/-- Phases of a session. -/
def Phase.InSession : Phase → Prop
  | .reading | .writing _ | .listening => True
  | _ => False

/-- What a phase needs of the symbols in force, by those that were sent last. -/
def Phase.Knows (last : Option SymbolSet) : Phase → SymbolSet → Prop
  | .writing (.subscribe symbols), current => symbols = current
  | .writing (.pong _), current | .writing .close, current | .listening, current =>
    current.isEmpty ∨ last = some current
  | _, _ => True

def UpToDate (consumer : Consumer) (last : Option SymbolSet) : Prop :=
  consumer.phase.Knows last consumer.subscription.symbols ∨ consumer.subscription.Pending

variable {consumer next : Consumer} {event : Event} {effects : List Effect}

theorem Step.upToDate {last : Option SymbolSet} (step : Step consumer event next effects)
    (before : consumer.UpToDate last) : next.UpToDate ((lastSubscribed effects).or last) := by
  cases step with
  | change change => exact Subscription.write_keeps change before
  | signal signalled => exact .inr (Subscription.pending_of_signal signalled)
  | cancel => exact before
  | skip _ empty => exact .inl (.inl empty)
  | read => exact .inl rfl
  | text text listening | binary bytes listening =>
    rw [lastSubscribed_logs]
    exact before
  | ping payload listening | part cancelled listening =>
    rw [UpToDate, listening] at before
    exact before
  | pong payload listening => exact before
  | subscribed writing =>
    rw [UpToDate, writing] at before
    rcases before with same | pending
    · exact .inl (.inr (congrArg some same))
    · exact .inr pending
  | ponged writing =>
    rw [UpToDate, writing] at before
    exact before
  -- What is left leads out of the session or makes it read the symbols, which needs nothing.
  | _ => exact .inl trivial

/-- A session begins with a connection that comes about and goes on without another one. -/
theorem Step.inSession (step : Step consumer event next effects) (inside : next.phase.InSession) :
    (event = .connected ∧ consumer.phase = .connecting ∧ next = consumer.enter.1) ∨
      (event ≠ .connected ∧ consumer.phase.InSession) := by
  cases step with
  | enter connecting => exact .inl ⟨rfl, connecting, rfl⟩
  | change | signal | cancel => exact .inr ⟨by simp, inside⟩
  | skip reading | read reading => exact .inr ⟨by simp, by rw [reading]; trivial⟩
  | text _ listening | binary _ listening | ping _ listening | pong _ listening
  | resubscribe listening | part _ listening =>
    exact .inr ⟨by simp, by rw [listening]; trivial⟩
  | subscribed writing | ponged writing => exact .inr ⟨by simp, by rw [writing]; trivial⟩
  | _ => exact inside.elim

/-- The session in which a run stands: the last connection that came about and what followed. -/
structure Session (start : Consumer) (events : List Event) (consumer : Consumer) where
  earlier : List Event
  later : List Event
  split : events = earlier ++ .connected :: later
  last : .connected ∉ later
  found : Consumer
  past : List Effect
  reached : start.run? earlier = some (found, past)
  connecting : found.phase = .connecting
  /-- The effects of the session. -/
  since : List Effect
  ran : found.enter.1.run? later = some (consumer, since)

namespace Session

variable {start : Consumer} {events : List Event}

def open_ {past : List Effect} (reached : start.run? events = some (consumer, past))
    (connecting : consumer.phase = .connecting) :
    Session start (events ++ [.connected]) consumer.enter.1 where
  earlier := events
  later := []
  split := rfl
  last := List.not_mem_nil
  found := consumer
  past := past
  reached := reached
  connecting := connecting
  since := []
  ran := rfl

def extend (session : Session start events consumer) (other : event ≠ .connected)
    (stepped : consumer.step? event = some (next, effects)) :
    Session start (events ++ [event]) next :=
  { session with
    later := session.later ++ [event]
    split := (congrArg (· ++ [event]) session.split).trans (by simp)
    last := fun member => by
      rcases List.mem_append.mp member with before | here
      · exact session.last before
      · exact other (List.mem_singleton.mp here).symm
    since := session.since ++ effects
    ran := runs.concat_iff.mpr ⟨consumer, session.since, effects, session.ran, stepped, rfl⟩ }

end Session

theorem exists_session {start : Consumer} {events : List Event}
    (outside : ¬start.phase.InSession) (run : start.run? events = some (consumer, effects))
    (inside : consumer.phase.InSession) :
    ∃ session : Session start events consumer, consumer.UpToDate (lastSubscribed session.since) := by
  revert inside
  -- A connection that comes about opens a session; every other step inside one extends it.
  refine runs.induction (fun events consumer _ => consumer.phase.InSession →
    ∃ session : Session start events consumer,
      consumer.UpToDate (lastSubscribed session.since)) (fun inside => absurd inside outside) ?_ run
  intro events consumer effects event next more before ran stepped inside
  rcases (step_of_step? stepped).inSession inside with ⟨rfl, connecting, rfl⟩ | ⟨other, still⟩
  · exact ⟨.open_ ran connecting, .inl trivial⟩
  · obtain ⟨session, current⟩ := before still
    refine ⟨session.extend other stepped, ?_⟩
    have since : (session.extend other stepped).since = session.since ++ more := rfl
    rw [since, lastSubscribed_append]
    exact (step_of_step? stepped).upToDate current

theorem subscription_current {settings : Settings} {events : List Event}
    (run : (ofSettings settings).run? events = some (consumer, effects))
    (listening : consumer.phase = .listening) (taken : consumer.subscription.permit = false)
    (signalled : consumer.subscription.unsignalled = 0) :
    ∃ session : Session (ofSettings settings) events consumer,
      consumer.subscription.symbols.isEmpty ∨
        lastSubscribed session.since = some consumer.subscription.symbols := by
  have inside : consumer.phase.InSession := by
    rw [listening]
    trivial
  obtain ⟨session, current⟩ := exists_session id run inside
  refine ⟨session, ?_⟩
  rw [UpToDate, listening] at current
  rcases current with known | told | unsaid
  · exact known
  · rw [taken] at told
    contradiction
  · exact absurd signalled unsaid

/-- Symbols are added, and that is signalled, while the first subscription is written. -/
def crossing : List Event :=
  [.goOn, .goOn, .connected, .goOn, .change (.add ["beta"]), .signal, .written,
    .received (.ping []), .written, .resubscribe, .goOn, .written]

theorem subscription_current_crossing :
    ∃ consumer effects,
      (ofSettings ⟨"wss://feed", .ofNames ["ALPHA"], default⟩).run? crossing =
        some (consumer, effects) ∧
      consumer.phase = .listening ∧ consumer.subscription = ⟨.ofNames ["ALPHA", "BETA"], false, 0⟩ ∧
      ∃ session : Session (ofSettings ⟨"wss://feed", .ofNames ["ALPHA"], default⟩) crossing consumer,
        consumer.subscription.symbols.isEmpty ∨
          lastSubscribed session.since = some consumer.subscription.symbols := by
  have ran : ((ofSettings ⟨"wss://feed", .ofNames ["ALPHA"], default⟩).run? crossing).map
      (fun result => (result.1.phase, result.1.subscription)) =
        some (.listening, ⟨.ofNames ["ALPHA", "BETA"], false, 0⟩) := by
    decide +kernel
  obtain ⟨⟨consumer, effects⟩, run, seen⟩ := Option.map_eq_some_iff.mp ran
  obtain ⟨listening, subscription⟩ := Prod.mk.inj seen
  have settled := congrArg Subscription.permit subscription
  have signalled := congrArg Subscription.unsignalled subscription
  exact ⟨consumer, effects, run, listening, subscription,
    subscription_current run listening settled signalled⟩

end Consumer

end FeedMonitor.Feed
