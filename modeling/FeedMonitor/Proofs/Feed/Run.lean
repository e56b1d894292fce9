import FeedMonitor.Feed.Consumer
import FeedMonitor.Proofs.Run

/-!
The steps of a consumer case by case, and induction over its runs.
-/

namespace FeedMonitor.Feed.Consumer

/-- All that an event can do, each phase in which it can come for itself. -/
inductive Step (consumer : Consumer) : Event → Consumer → List Effect → Prop
  | change (change : Subscription.Change) :
      Step consumer (.change change)
        { consumer with subscription := (consumer.subscription.write change).2 } []
  | signal {subscription : Subscription}
      (signalled : consumer.subscription.signal? = some subscription) :
      Step consumer .signal { consumer with subscription } []
  | cancel : Step consumer .cancel { consumer with cancelled := true } []
  | start (starting : consumer.phase = .starting) :
      Step consumer .goOn { consumer with phase := .resting }
        [line .info s!"Price stream started for {consumer.url}"]
  | quit (resting : consumer.phase = .resting) (cancelled : consumer.cancelled) :
      Step consumer .goOn { consumer with phase := .leaving } []
  | connect (resting : consumer.phase = .resting) (wanted : consumer.cancelled = false) :
      Step consumer .goOn { (consumer.publish .connecting).1 with phase := .connecting }
        ((consumer.publish .connecting).2 ++ [line .debug s!"Connecting to {consumer.url}"])
  | skip (reading : consumer.phase = .reading) (empty : consumer.subscription.symbols.isEmpty) :
      Step consumer .goOn { consumer with phase := .listening }
        [line .debug "No symbols to subscribe to"]
  | read (reading : consumer.phase = .reading)
      (wanted : consumer.subscription.symbols.isEmpty = false) :
      Step consumer .goOn
        { consumer with phase := .writing (.subscribe consumer.subscription.symbols) } []
  | stop (leaving : consumer.phase = .leaving) :
      Step consumer .goOn (consumer.close .stopped [line .info "Price stream stopped"]).1
        (consumer.close .stopped [line .info "Price stream stopped"]).2
  | enter (connecting : consumer.phase = .connecting) :
      Step consumer .connected consumer.enter.1 consumer.enter.2
  | refused (cause : String) (connecting : consumer.phase = .connecting) :
      Step consumer (.refused cause)
        (consumer.close .parting [line .warn (Failure.connect cause).message]).1
        (consumer.close .parting [line .warn (Failure.connect cause).message]).2
  | text (text : String) (listening : consumer.phase = .listening) :
      Step consumer (.received (.text text))
        { consumer with store := (consumer.store.takeText consumer.subscription.symbols text).1 }
        ((consumer.store.takeText consumer.subscription.symbols text).2.map .log)
  | binary (bytes : List UInt8) (listening : consumer.phase = .listening) :
      Step consumer (.received (.binary bytes))
        { consumer with store := (consumer.store.takeBytes consumer.subscription.symbols bytes).1 }
        ((consumer.store.takeBytes consumer.subscription.symbols bytes).2.map .log)
  | ping (payload : List UInt8) (listening : consumer.phase = .listening) :
      Step consumer (.received (.ping payload)) { consumer with phase := .writing (.pong payload) } []
  | pong (payload : List UInt8) (listening : consumer.phase = .listening) :
      Step consumer (.received (.pong payload)) consumer []
  | closed {event : Event} (final : event = .received .close ∨ event = .ended)
      (listening : consumer.phase = .listening) :
      Step consumer event
        (consumer.close .parting [line .info "Connection closed by server"]).1
        (consumer.close .parting [line .info "Connection closed by server"]).2
  | failed (cause : String) (listening : consumer.phase = .listening) :
      Step consumer (.failed cause) (consumer.sessionFailed (.closed cause)).1
        (consumer.sessionFailed (.closed cause)).2
  | resubscribe {subscription : Subscription} (listening : consumer.phase = .listening)
      (taken : consumer.subscription.take? = some subscription) :
      Step consumer .resubscribe { consumer with subscription, phase := .reading } []
  | subscribed {symbols : SymbolSet} (writing : consumer.phase = .writing (.subscribe symbols)) :
      Step consumer .written { consumer with phase := .listening }
        [.wrote (.subscribe symbols), line .info s!"Subscribed to {symbols.size} ticker symbols"]
  | ponged {payload : List UInt8} (writing : consumer.phase = .writing (.pong payload)) :
      Step consumer .written { consumer with phase := .listening } [.wrote (.pong payload)]
  | parted (writing : consumer.phase = .writing .close) :
      Step consumer .written (consumer.close .leaving []).1
        (.wrote .close :: (consumer.close .leaving []).2)
  | unwritten {frame : Outgoing} (cause : String) (writing : consumer.phase = .writing frame)
      (other : frame ≠ .close) :
      Step consumer (.unwritten cause) (consumer.sessionFailed (.send cause)).1
        (consumer.sessionFailed (.send cause)).2
  | unparted (cause : String) (writing : consumer.phase = .writing .close) :
      Step consumer (.unwritten cause) (consumer.close .leaving []).1
        (line .debug s!"Failed to send close frame: {cause}" :: (consumer.close .leaving []).2)
  | pause (draw : Nat) (parting : consumer.phase = .parting) :
      Step consumer (.pause draw) (consumer.pause draw).1 (consumer.pause draw).2
  | awake {delay : Span} (pausing : consumer.phase = .pausing delay) :
      Step consumer .awake { consumer with phase := .resting } []
  | leave (cancelled : consumer.cancelled)
      (waiting : consumer.phase = .connecting ∨ ∃ delay, consumer.phase = .pausing delay) :
      Step consumer .leave { consumer with phase := .leaving } []
  | part (cancelled : consumer.cancelled) (listening : consumer.phase = .listening) :
      Step consumer .leave { consumer with phase := .writing .close } []

variable {consumer next : Consumer} {event : Event} {effects : List Effect}

theorem step_of_goOn (result : consumer.goOn = some (next, effects)) :
    Step consumer .goOn next effects := by
  unfold goOn at result
  split at result
  · rename_i starting
    cases result
    exact .start starting
  · rename_i resting
    split at result
    · rename_i cancelled
      cases result
      exact .quit resting cancelled
    · rename_i wanted
      cases result
      exact .connect resting (Bool.eq_false_iff.mpr wanted)
  · rename_i reading
    split at result
    · rename_i empty
      cases result
      exact .skip reading empty
    · rename_i wanted
      cases result
      exact .read reading (Bool.eq_false_iff.mpr wanted)
  · rename_i leaving
    obtain ⟨rfl, rfl⟩ := Prod.mk.inj (Option.some.inj result)
    exact .stop leaving
  · contradiction

theorem step_of_receive {frame : Incoming} (listening : consumer.phase = .listening)
    (result : consumer.receive frame = (next, effects)) :
    Step consumer (.received frame) next effects := by
  obtain ⟨rfl, rfl⟩ := Prod.mk.inj result
  cases frame with
  | text text => exact .text text listening
  | binary bytes => exact .binary bytes listening
  | ping payload => exact .ping payload listening
  | pong payload => exact .pong payload listening
  | close => exact .closed (.inl rfl) listening

theorem step_of_afterWrite {frame : Outgoing} (writing : consumer.phase = .writing frame)
    (result : consumer.afterWrite frame = (next, effects)) :
    Step consumer .written next effects := by
  obtain ⟨rfl, rfl⟩ := Prod.mk.inj result
  cases frame with
  | subscribe symbols => exact .subscribed writing
  | pong payload => exact .ponged writing
  | close => exact .parted writing

theorem step_of_afterFault {frame : Outgoing} {cause : String}
    (writing : consumer.phase = .writing frame)
    (result : consumer.afterFault frame cause = (next, effects)) :
    Step consumer (.unwritten cause) next effects := by
  obtain ⟨rfl, rfl⟩ := Prod.mk.inj result
  cases frame with
  | subscribe symbols => exact .unwritten cause writing (by simp)
  | pong payload => exact .unwritten cause writing (by simp)
  | close => exact .unparted cause writing

theorem step_of_leave (result : consumer.leave = some (next, effects)) :
    Step consumer .leave next effects := by
  unfold leave at result
  split at result
  · rename_i cancelled
    split at result
    · rename_i connecting
      cases result
      exact .leave cancelled (.inl connecting)
    · rename_i pausing
      cases result
      exact .leave cancelled (.inr ⟨_, pausing⟩)
    · rename_i listening
      cases result
      exact .part cancelled listening
    · contradiction
  · contradiction

theorem step_of_step? (result : consumer.step? event = some (next, effects)) :
    Step consumer event next effects := by
  unfold step? at result
  split at result
  · cases result
    exact .change _
  · obtain ⟨subscription, signalled, same⟩ := Option.map_eq_some_iff.mp result
    cases same
    exact .signal signalled
  · cases result
    exact .cancel
  · exact step_of_goOn result
  · exact step_of_leave result
  · rename_i connecting
    obtain ⟨rfl, rfl⟩ := Prod.mk.inj (Option.some.inj result)
    exact .enter connecting
  · rename_i connecting
    obtain ⟨rfl, rfl⟩ := Prod.mk.inj (Option.some.inj result)
    exact .refused _ connecting
  · rename_i listening
    exact step_of_receive listening (Option.some.inj result)
  · rename_i listening
    obtain ⟨rfl, rfl⟩ := Prod.mk.inj (Option.some.inj result)
    exact .closed (.inr rfl) listening
  · rename_i listening
    obtain ⟨rfl, rfl⟩ := Prod.mk.inj (Option.some.inj result)
    exact .failed _ listening
  · rename_i listening
    obtain ⟨subscription, taken, same⟩ := Option.map_eq_some_iff.mp result
    cases same
    exact .resubscribe listening taken
  · rename_i writing
    exact step_of_afterWrite writing (Option.some.inj result)
  · rename_i writing
    exact step_of_afterFault writing (Option.some.inj result)
  · rename_i parting
    obtain ⟨rfl, rfl⟩ := Prod.mk.inj (Option.some.inj result)
    exact .pause _ parting
  · rename_i pausing
    cases result
    exact .awake pausing
  · contradiction

theorem runs : Runs step? run? where
  nil _ := rfl
  cons consumer event rest := by
    rw [run?]
    cases consumer.step? event with
    | none => rfl
    | some stepped => exact (Option.map_eq_bind ..).symm

end FeedMonitor.Feed.Consumer
