import FeedMonitor.Agent
import FeedMonitor.Proofs.Feed.Standing

/-!
What an agent reports of its connection.

The consumer and the reporter take turns in any order, and the reporter sees where the connection
stands when it has a turn. So a change is reported exactly if the reporter has a turn before the
next one comes; what is reported comes in order and once.
-/

namespace FeedMonitor

open Feed (Connection)

/-! ### Changes of the connection -/

namespace Feed.Consumer

variable {consumer next : Consumer} {event : Event} {effects : List Effect}

/-- A step makes the connection known if it changes, and else it makes nothing known. -/
theorem Step.published_eq (step : Step consumer event next effects) :
    effects.filterMap Effect.published? =
      if next.connection = consumer.connection then [] else [next.connection] := by
  have close (phase : Phase) {lines : List Effect} (quiet : Quiet lines) :
      (consumer.close phase lines).2.filterMap Effect.published? =
        if (consumer.close phase lines).1.connection = consumer.connection then []
        else [(consumer.close phase lines).1.connection] := by
    simp only [Consumer.close, List.filterMap_append, quiet.published, List.append_nil,
      published_publish, connection_publish]
  have still {more : List Effect} (quiet : Quiet more) :
      more.filterMap Effect.published? =
        if consumer.connection = consumer.connection then [] else [consumer.connection] := by
    rw [if_pos rfl, quiet.published]
  cases step with
  | change | signal | cancel | quit | read | ping | pong | resubscribe | awake | leave | part =>
    exact still .nil
  | start | skip => exact still .line
  | text | binary => exact still (.logs _)
  | subscribed => exact still (Quiet.line.wrote _)
  | ponged => exact still (Quiet.nil.wrote _)
  | stop | refused | closed | failed | unwritten => exact close _ .line
  | parted | unparted => exact close _ .nil
  | pause draw =>
    have same : (consumer.pause draw).1.connection = consumer.connection := rfl
    rw [if_pos same]
    rfl
  | connect =>
    rw [List.filterMap_append, Quiet.line.published, List.append_nil, published_publish]
    simp only [connection_publish]
  | enter =>
    simp only [Consumer.enter, List.filterMap_append, Quiet.line.published, List.append_nil,
      published_publish, connection_publish]

theorem exists_run_settle (consumer : Consumer) :
    ∃ events, consumer.run? events = some consumer.settle := by
  have rounds (fuel : Nat) : ∀ consumer : Consumer,
      ∃ events, consumer.run? events = some (settle.rounds fuel consumer) := by
    induction fuel with
    | zero => exact fun consumer => ⟨[], rfl⟩
    | succ fuel ih =>
      intro consumer
      cases stepped : consumer.nextEvent?.bind consumer.step? with
      | none => exact ⟨[], by rw [settle.rounds, stepped, runs.nil]⟩
      | some step =>
        obtain ⟨event, -, went⟩ := Option.bind_eq_some_iff.mp stepped
        obtain ⟨events, ran⟩ := ih step.1
        refine ⟨event :: events, ?_⟩
        rw [settle.rounds, stepped]
        exact runs.cons_iff.mpr ⟨step.1, step.2, _, went, ran, rfl⟩
  exact rounds 8 consumer

theorem exists_run_take (consumer : Consumer) (event : Event) :
    ∃ events, consumer.run? events = some (consumer.take event) := by
  unfold take
  cases stepped : consumer.step? event with
  | none => exact consumer.exists_run_settle
  | some step =>
    obtain ⟨events, ran⟩ := step.1.exists_run_settle
    exact ⟨event :: events, runs.cons_iff.mpr ⟨step.1, step.2, _, stepped, ran, rfl⟩⟩

end Feed.Consumer

namespace Agent

variable {σ : Type}

/-! ### Turns -/

/-- The emission that the reporter makes when it has a turn. -/
def due? (agent : Agent σ) : Option Emission :=
  agent.watch.visit?.bind fun seen =>
    connectionEmission? seen.1 agent.consumer.subscription.symbols agent.consumer.store.lastPrice

theorem consumer_report (agent : Agent σ) (time : Instant) :
    (agent.report time).consumer = agent.consumer := by
  unfold report
  split
  · rfl
  · dsimp only
    split <;> rfl

theorem watch_report (agent : Agent σ) (time : Instant) :
    (agent.report time).watch = { agent.watch with fresh := false } := by
  obtain ⟨telemetry, consumer, latest, fresh⟩ := agent
  cases fresh with
  | false => rfl
  | true =>
    simp only [report, Feed.Watch.visit?, if_true]
    split <;> rfl

theorem consumer_notes (agent : Agent σ) (effects : List Feed.Consumer.Effect) :
    (effects.foldl note agent).consumer = agent.consumer := by
  induction effects generalizing agent with
  | nil => rfl
  | cons effect rest ih =>
    rw [List.foldl_cons, ih]
    cases effect <;> rfl

theorem watch_notes (agent : Agent σ) (effects : List Feed.Consumer.Effect) :
    (effects.foldl note agent).watch =
      (effects.filterMap Feed.Consumer.Effect.published?).foldl Feed.Watch.publish agent.watch := by
  induction effects generalizing agent with
  | nil => rfl
  | cons effect rest ih =>
    rw [List.foldl_cons, ih]
    cases effect <;> rfl

/-- What a consumer does to the outside does not depend on the consumer. -/
theorem notes_with_consumer (agent : Agent σ) (consumer : Feed.Consumer)
    (effects : List Feed.Consumer.Effect) :
    effects.foldl note { agent with consumer } = { effects.foldl note agent with consumer } := by
  induction effects generalizing agent with
  | nil => rfl
  | cons effect rest ih =>
    rw [List.foldl_cons, List.foldl_cons, ← ih]
    cases effect <;> rfl

/-- A turn of the consumer, or of the reporter. -/
inductive Turn
  | consumer (event : Feed.Consumer.Event)
  | reporter (time : Instant)

/-- What is seen of a turn. -/
inductive Sight
  | changed (connection : Connection)
  /-- The reporter has had a turn, and has emitted something or not. -/
  | visited (emitted : Option Emission)

def step? (agent : Agent σ) : Turn → Option (Agent σ × List Sight)
  | .consumer event => (agent.consumer.step? event).map fun stepped =>
      (stepped.2.foldl note { agent with consumer := stepped.1 },
        (stepped.2.filterMap Feed.Consumer.Effect.published?).map .changed)
  | .reporter time => some (agent.report time, [.visited agent.due?])

def run? (agent : Agent σ) (turns : List Turn) : Option (Agent σ × List Sight) :=
  runWith step? agent turns

theorem runs : Runs (step? (σ := σ)) run? := .ofStep step?

/-- An agent whose two tasks have not had a turn yet. -/
def ofSettings (telemetry : Telemetry σ) (feed : Feed.Settings) : Agent σ :=
  ⟨telemetry, .ofSettings feed, .ofValue .disconnected⟩

/-- What a consumer does without the reporter is done in turns of the consumer. -/
theorem exists_run_of_consumer {agent : Agent σ} {events : List Feed.Consumer.Event}
    {next : Feed.Consumer} {effects : List Feed.Consumer.Effect}
    (ran : agent.consumer.run? events = some (next, effects)) :
    ∃ sights, agent.run? (events.map .consumer) =
      some (effects.foldl note { agent with consumer := next }, sights) := by
  induction events generalizing agent effects with
  | nil =>
    rw [Feed.Consumer.runs.nil] at ran
    cases ran
    exact ⟨[], rfl⟩
  | cons event rest ih =>
    obtain ⟨middle, first, more, stepped, went, rfl⟩ := Feed.Consumer.runs.cons_iff.mp ran
    have turn : agent.step? (.consumer event) =
        some (first.foldl note { agent with consumer := middle },
          (first.filterMap Feed.Consumer.Effect.published?).map .changed) := by
      rw [step?, stepped]
      rfl
    have kept := consumer_notes { agent with consumer := middle } first
    obtain ⟨sights, later⟩ := ih (by rwa [kept])
    refine ⟨_, runs.cons_iff.mpr ⟨_, _, sights, turn, ?_, rfl⟩⟩
    rw [later, ← notes_with_consumer, List.foldl_append]

/-- Where the consumer goes on for as long as it can and then the reporter has its turn, the turns
come in one of the orders in which they can. -/
theorem exists_run_take (agent : Agent σ) (time : Instant) (event : Feed.Consumer.Event) :
    ∃ turns sights, agent.run? turns = some ((agent.take time event).2, sights) := by
  obtain ⟨events, ran⟩ := agent.consumer.exists_run_take event
  obtain ⟨sights, went⟩ := exists_run_of_consumer ran
  exact ⟨events.map .consumer ++ [.reporter time], _,
    runs.concat_iff.mpr ⟨_, sights, _, went, rfl, rfl⟩⟩

/-- An agent starts with a turn of its reporter after those of its consumer. -/
theorem exists_run_start (telemetry : Telemetry σ) (feed : Feed.Settings) (time : Instant) :
    ∃ opened turns sights,
      (ofSettings opened feed).run? turns = some (start telemetry feed time, sights) := by
  obtain ⟨events, ran⟩ := (Feed.Consumer.ofSettings feed).exists_run_settle
  have settled (opened : Telemetry σ) : ∃ turns sights, (ofSettings opened feed).run? turns =
      some (((Feed.Consumer.ofSettings feed).settle.2.foldl note
        ⟨opened, (Feed.Consumer.ofSettings feed).settle.1, .ofValue .disconnected⟩).report time,
        sights) := by
    have alone : (ofSettings opened feed).consumer.run? events =
        some (Feed.Consumer.ofSettings feed).settle := ran
    obtain ⟨sights, went⟩ := exists_run_of_consumer alone
    exact ⟨events.map .consumer ++ [.reporter time], _,
      runs.concat_iff.mpr ⟨_, sights, _, went, rfl, rfl⟩⟩
  exact ⟨_, settled _⟩

/-! ### Sights -/

def Sight.changed? : Sight → Option Connection
  | .changed connection => some connection
  | .visited _ => none

def Sight.emitted? : Sight → Option Emission
  | .changed _ => none
  | .visited emitted => emitted

def changes (sights : List Sight) : List Connection := sights.filterMap Sight.changed?

def emitted (sights : List Sight) : List Emission := sights.filterMap Sight.emitted?

theorem changes_append (sights more : List Sight) :
    changes (sights ++ more) = changes sights ++ changes more := List.filterMap_append

theorem emitted_append (sights more : List Sight) :
    emitted (sights ++ more) = emitted sights ++ emitted more := List.filterMap_append

theorem changes_map_changed (connections : List Connection) :
    changes (connections.map .changed) = connections := by
  rw [changes, List.filterMap_map]
  exact List.filterMap_some

def Sight.isVisit : Sight → Bool
  | .changed _ => false
  | .visited _ => true

/-- The changes after which the reporter has a turn before the next one. -/
def timely : List Sight → List Connection
  | [] => []
  | .changed connection :: rest =>
    if rest.head?.any Sight.isVisit then connection :: timely rest else timely rest
  | .visited _ :: rest => timely rest

/-- The last change, if the reporter has not had a turn since. -/
def pending (sights : List Sight) : Option Connection := sights.getLast?.bind Sight.changed?

theorem pending_concat (sights : List Sight) (sight : Sight) :
    pending (sights ++ [sight]) = sight.changed? := by
  rw [pending, List.getLast?_concat, Option.bind_some]

theorem pending_cons_cons (first second : Sight) (rest : List Sight) :
    pending (first :: second :: rest) = pending (second :: rest) := by
  rw [pending, List.getLast?_cons_cons, pending]

theorem timely_concat_changed (sights : List Sight) (connection : Connection) :
    timely (sights ++ [.changed connection]) = timely sights := by
  induction sights with
  | nil => rfl
  | cons first rest ih =>
    cases first with
    | visited emitted => exact ih
    | changed earlier =>
      cases rest with
      | nil => rfl
      | cons second rest =>
        rw [List.cons_append, timely, ih, timely]
        rfl

theorem timely_concat_visited (sights : List Sight) (emitted : Option Emission) :
    timely (sights ++ [.visited emitted]) = timely sights ++ (pending sights).toList := by
  induction sights with
  | nil => rfl
  | cons first rest ih =>
    cases rest with
    | nil => cases first <;> rfl
    | cons second rest =>
      rw [pending_cons_cons]
      cases first with
      | visited earlier => exact ih
      | changed connection =>
        rw [List.cons_append, timely, ih, timely]
        split <;> simp_all

theorem timely_sublist (sights : List Sight) : (timely sights).Sublist (changes sights) := by
  induction sights with
  | nil => exact List.Sublist.refl _
  | cons first rest ih =>
    cases first with
    | visited emitted => exact ih
    | changed connection =>
      rw [timely]
      split
      · exact ih.cons_cons connection
      · exact ih.cons connection

/-- If the reporter has a turn after each change and before the next, all changes are in time. -/
theorem timely_eq_changes {sights : List Sight}
    (between : sights.IsChain fun sight next => sight.isVisit ∨ next.isVisit)
    (last : pending sights = none) : timely sights = changes sights := by
  induction sights with
  | nil => rfl
  | cons first rest ih =>
    cases rest with
    | nil =>
      cases first with
      | visited emitted => rfl
      | changed connection => contradiction
    | cons second rest =>
      obtain ⟨here, behind⟩ := List.isChain_cons_cons.mp between
      rw [pending_cons_cons] at last
      have same := ih behind last
      cases first with
      | visited emitted => exact same
      | changed connection =>
        have visit : second.isVisit := here.resolve_left (by simp [Sight.isVisit])
        rw [timely, List.head?_cons, Option.any_some, if_pos visit, same]
        rfl

/-! ### Reports -/

/-- What an emission reports: its severity, its event and its message. -/
def filed (emission : Emission) : Severity × Option String × String :=
  (emission.severity, emission.context.event, emission.message)

def Lifecycle.filed (report : Lifecycle) : Severity × Option String × String :=
  (report.severity, some report.event, report.message)

theorem map_filed_connectionEmission? (connection : Connection) (symbols : SymbolSet)
    (lastPrice : Option Feed.PriceUpdate) :
    (connectionEmission? connection symbols lastPrice).map filed =
      (Lifecycle.ofConnection? connection).map Lifecycle.filed := by
  cases lastPrice <;> cases connection <;> rfl

/-- The reports that are due for some states of the connection. -/
def reportsOf (connections : List Connection) : List (Severity × Option String × String) :=
  (connections.filterMap Lifecycle.ofConnection?).map Lifecycle.filed

theorem reportsOf_append (connections more : List Connection) :
    reportsOf (connections ++ more) = reportsOf connections ++ reportsOf more := by
  rw [reportsOf, List.filterMap_append, List.map_append, reportsOf, reportsOf]

/-- What is known of an agent from what was seen of its turns. -/
structure Follows (agent : Agent σ) (sights : List Sight) : Prop where
  latest : agent.watch.latest = agent.consumer.connection
  fresh : agent.watch.visit?.map Prod.fst = pending sights
  reported : (emitted sights).map filed = reportsOf (timely sights)

theorem Follows.consumer {agent : Agent σ} {sights : List Sight} (follows : Follows agent sights)
    {event : Feed.Consumer.Event} {next : Feed.Consumer} {effects : List Feed.Consumer.Effect}
    (step : Feed.Consumer.Step agent.consumer event next effects) :
    Follows (effects.foldl note { agent with consumer := next })
      (sights ++ (effects.filterMap Feed.Consumer.Effect.published?).map .changed) := by
  have watch := watch_notes { agent with consumer := next } effects
  have kept := consumer_notes { agent with consumer := next } effects
  rw [step.published_eq] at watch ⊢
  by_cases same : next.connection = agent.consumer.connection
  · rw [if_pos same] at watch ⊢
    rw [List.map_nil, List.append_nil]
    refine ⟨?_, ?_, follows.reported⟩
    · rw [watch, kept, same]
      exact follows.latest
    · rw [watch]
      exact follows.fresh
  · rw [if_neg same] at watch ⊢
    have other : next.connection ≠ agent.watch.latest := by rwa [follows.latest]
    have seen : (effects.foldl note { agent with consumer := next }).watch =
        ⟨next.connection, true⟩ := watch.trans (if_neg other)
    refine ⟨?_, ?_, ?_⟩
    · rw [seen, kept]
    · rw [seen, List.map_singleton, pending_concat]
      rfl
    · have none : emitted [.changed next.connection] = [] := rfl
      rw [List.map_singleton, timely_concat_changed, emitted_append, none, List.append_nil]
      exact follows.reported

theorem Follows.reporter {agent : Agent σ} {sights : List Sight} (follows : Follows agent sights)
    (time : Instant) : Follows (agent.report time) (sights ++ [.visited agent.due?]) := by
  refine ⟨?_, ?_, ?_⟩
  · rw [watch_report, consumer_report]
    exact follows.latest
  · rw [watch_report, pending_concat]
    rfl
  · have due : agent.due?.map filed =
        (pending sights).bind fun seen => (Lifecycle.ofConnection? seen).map Lifecycle.filed := by
      rw [← follows.fresh, due?]
      cases agent.watch.visit? with
      | none => rfl
      | some seen => exact map_filed_connectionEmission? ..
    have last : (emitted [.visited agent.due?]).map filed = reportsOf (pending sights).toList := by
      have one : emitted [.visited agent.due?] = agent.due?.toList := by
        cases agent.due? <;> rfl
      rw [one, ← Option.toList_map, due]
      cases pending sights with
      | none => rfl
      | some seen => cases seen <;> rfl
    rw [timely_concat_visited, emitted_append, List.map_append, follows.reported, last,
      reportsOf_append]

/-- What an agent reports, by what was seen of its turns. -/
structure Reporting (sights : List Sight) : Prop where
  /-- The changes themselves: attempt after attempt, with or without a session. -/
  course : ∃ word, Feed.Consumer.Word word ∧ .disconnected :: changes sights <+: word
  /-- Only changes are reported, in order and each once. -/
  ordered : (timely sights).Sublist (changes sights)
  /-- A change is reported exactly if the reporter has a turn before the next one. -/
  reported : (emitted sights).map filed = reportsOf (timely sights)
  /-- So all are reported if the reporter has a turn between each two and at the end. -/
  complete : (sights.IsChain fun sight next => sight.isVisit ∨ next.isVisit) →
    pending sights = none → (emitted sights).map filed = reportsOf (changes sights)

def Turn.event? : Turn → Option Feed.Consumer.Event
  | .consumer event => some event
  | .reporter _ => none

/-- Between the turns of the reporter the consumer runs as if it were alone. -/
theorem exists_run_of_run {start agent : Agent σ} {turns : List Turn} {sights : List Sight}
    (run : start.run? turns = some (agent, sights)) :
    ∃ effects, start.consumer.run? (turns.filterMap Turn.event?) =
        some (agent.consumer, effects) ∧
      changes sights = effects.filterMap Feed.Consumer.Effect.published? := by
  refine runs.induction (fun turns agent sights => ∃ effects,
    start.consumer.run? (turns.filterMap Turn.event?) = some (agent.consumer, effects) ∧
      changes sights = effects.filterMap Feed.Consumer.Effect.published?) ?_ ?_ run
  · exact ⟨[], rfl, rfl⟩
  · rintro turns agent sights turn next more ⟨effects, ran, same⟩ - stepped
    rw [List.filterMap_append]
    cases turn with
    | reporter time =>
      cases stepped
      refine ⟨effects, ?_, ?_⟩
      · rw [consumer_report]
        exact (congrArg start.consumer.run? (List.append_nil _)).trans ran
      · rw [changes_append, same]
        exact List.append_nil _
    | consumer event =>
      obtain ⟨⟨consumer, later⟩, went, same'⟩ := Option.map_eq_some_iff.mp stepped
      cases same'
      refine ⟨effects ++ later, ?_, ?_⟩
      · rw [consumer_notes]
        exact Feed.Consumer.runs.concat_iff.mpr ⟨agent.consumer, effects, later, ran, went, rfl⟩
      · rw [changes_append, changes_map_changed, same, List.filterMap_append]

theorem follows_of_run {telemetry : Telemetry σ} {feed : Feed.Settings} {agent : Agent σ}
    {turns : List Turn} {sights : List Sight}
    (run : (ofSettings telemetry feed).run? turns = some (agent, sights)) :
    Follows agent sights := by
  refine runs.induction (fun _ agent sights => Follows agent sights) ⟨rfl, rfl, rfl⟩ ?_ run
  intro turns agent sights turn next more follows _ stepped
  cases turn with
  | reporter time =>
    cases stepped
    exact follows.reporter time
  | consumer event =>
    obtain ⟨⟨consumer, effects⟩, went, same⟩ := Option.map_eq_some_iff.mp stepped
    cases same
    exact follows.consumer (Feed.Consumer.step_of_step? went)

theorem reporting_of_run {telemetry : Telemetry σ} {feed : Feed.Settings} {agent : Agent σ}
    {turns : List Turn} {sights : List Sight}
    (run : (ofSettings telemetry feed).run? turns = some (agent, sights)) : Reporting sights := by
  have follows := follows_of_run run
  refine ⟨?_, timely_sublist sights, follows.reported, fun between last => ?_⟩
  · obtain ⟨effects, ran, same⟩ := exists_run_of_run run
    rw [same]
    exact (Feed.Consumer.standing_of_run ran).course.exists_word
  · rw [follows.reported, timely_eq_changes between last]

/-- An agent without remote delivery, before its first turn. -/
def alone : Agent Unit :=
  .ofSettings (.ofEmitter ⟨default, ⟨"session", "user", none⟩, .ofSettings ⟨10⟩ 5 4⟩ none [])
    ⟨"wss://feed.test", ⟨["BTCUSD"], List.pairwise_singleton ..⟩, .fixed ⟨1000000⟩⟩

/-- The first session of an agent, to its end. -/
def session : List Turn :=
  [.consumer .goOn, .consumer .goOn, .consumer .connected, .consumer .goOn, .consumer .written,
    .consumer .ended]

/-- The way from one attempt to the next. -/
def retry : List Turn := [.consumer (.pause 0), .consumer .awake, .consumer .goOn]

def reportedAfter (turns : List Turn) :
    Option (List Connection × List (Severity × Option String × String)) :=
  (alone.run? turns).map fun ran => (changes ran.2, (emitted ran.2).map filed)

/-- A session that ends before the reporter has a turn is not reported to have begun, and one that
is followed by the next attempt is not reported at all. -/
theorem session_unreported :
    reportedAfter (session ++ [.reporter ⟨0, 0⟩]) =
        some ([.connecting, .connected, .disconnected],
          [(.warn, some "stream.disconnected", "price stream disconnected")]) ∧
      reportedAfter (session ++ retry ++ [.reporter ⟨0, 0⟩]) =
        some ([.connecting, .connected, .disconnected, .connecting], []) := by
  exact ⟨by decide +kernel, by decide +kernel⟩

end Agent

end FeedMonitor
