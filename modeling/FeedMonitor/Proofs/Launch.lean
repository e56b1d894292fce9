import FeedMonitor.Launch
import FeedMonitor.Proofs.Delivery.BatchSize
import FeedMonitor.Settings.Check

/-!
From the settings of an environment to the batches that the collector gets.

Settings that can be used are in the bounds to which the limiter, the queue and the service would
bring them, so all three take them as they are. The batch size is among them, and it bounds every
batch of every run.
-/

namespace FeedMonitor

namespace Settings

variable {records keys : Room} {settings : Settings}

theorem Usable.keys_eq (usable : settings.Usable) :
    max settings.dedupMostKeys 1 = settings.dedupMostKeys := Nat.max_eq_left usable.keys

theorem Usable.capacity_eq (usable : settings.Usable) :
    max settings.queueCapacity 1 = settings.queueCapacity := Nat.max_eq_left usable.capacity

theorem Usable.limiter (usable : settings.Usable) :
    Limiter.ofSettings settings.dedupWindow settings.dedupThreshold settings.dedupMostKeys =
      ⟨settings.dedupWindow, settings.dedupThreshold, settings.dedupMostKeys, []⟩ := by
  have threshold : max settings.dedupThreshold 1 = settings.dedupThreshold :=
    Nat.max_eq_left usable.threshold
  rw [Limiter.ofSettings, threshold, usable.keys_eq]

theorem Usable.emitter (usable : settings.Usable) (granted : keys.grants settings.dedupMostKeys = true)
    (identity : Identity) :
    Emitter.ofSettings? keys settings identity = some ⟨settings, identity,
      ⟨settings.dedupWindow, settings.dedupThreshold, settings.dedupMostKeys, []⟩⟩ := by
  rw [Emitter.ofSettings?, Limiter.reserve?, usable.keys_eq, if_pos granted, usable.limiter,
    Option.map_some]

/-- The service that is started from some settings. -/
def started (settings : Settings) : Delivery.Service :=
  .ofQueue (.ofCapacity settings.queueCapacity settings.overflow) settings.batchSize
    settings.flushInterval

theorem Usable.service (usable : settings.Usable)
    (granted : records.grants settings.queueCapacity = true) :
    Launch.service? records settings = some settings.started := by
  rw [Launch.service?, Delivery.Queue.reserve?, usable.capacity_eq, if_pos granted, Option.map_some,
    started]

theorem Usable.started_settings (usable : settings.Usable) :
    settings.started.settings = (settings.queueCapacity, settings.overflow, settings.batchSize,
      settings.flushInterval) := by
  have batchSize : max settings.batchSize 1 = settings.batchSize :=
    Nat.max_eq_left usable.batchSize.1
  simp only [started, Delivery.Service.settings, Delivery.Service.ofQueue,
    Delivery.Queue.ofCapacity, usable.capacity_eq, batchSize]

theorem Usable.transport (usable : settings.Usable) (remote : settings.remoteEnabled = true) :
    ∃ transport, Launch.transport? settings = some transport := by
  obtain ⟨text, given⟩ := usable.endpoint_of_remote remote
  rw [Launch.transport?, if_pos remote, Collector.Transport.ofSettings?, batchUrl?, given]
  exact ⟨_, rfl⟩

theorem Usable.launch (usable : settings.Usable) (remote : settings.remoteEnabled = true)
    (keysFit : keys.grants settings.dedupMostKeys = true)
    (recordsFit : records.grants settings.queueCapacity = true) (disk : Disk)
    (sessionId unique : String) :
    ∃ transport, (Launch.ofSettings? records keys settings disk sessionId unique).1 =
      some ⟨⟨settings, (Identity.resolve disk settings.identityFile sessionId unique).1,
        ⟨settings.dedupWindow, settings.dedupThreshold, settings.dedupMostKeys, []⟩⟩,
        some (settings.started, transport)⟩ := by
  obtain ⟨transport, reached⟩ := usable.transport remote
  refine ⟨transport, ?_⟩
  simp only [Launch.ofSettings?, reached, usable.service recordsFit, usable.emitter keysFit,
    Option.map_some]

/-- A run of the service carries batches of the configured size at most. -/
theorem Usable.carried (usable : settings.Usable) {events : List Delivery.Event}
    {system : Delivery.System} {effects : List Delivery.Effect}
    (run : (Delivery.System.ofService settings.started).run? events = some (system, effects))
    {effect : Delivery.Effect} (member : effect ∈ effects) {batch : List Record}
    (carried : effect.carried? = some batch) :
    1 ≤ batch.length ∧ batch.length ≤ settings.batchSize ∧
      batch.length ≤ Settings.mostBatchSize := by
  obtain ⟨some, least⟩ := Delivery.System.carried_sized run member carried
  obtain ⟨positive, most⟩ := usable.batchSize
  omega

end Settings

/-- With remote delivery there is a service, and what it hands over is never empty and never more
than the settings and the collector allow. -/
theorem Launch.batches_within_limit {environment : Environment} {settings : Settings}
    {journal : Journal} (loaded : Settings.load environment = (.ok settings, journal))
    (remote : settings.remoteEnabled = true)
    {records keys : Room} (keysFit : keys.grants settings.dedupMostKeys = true)
    (recordsFit : records.grants settings.queueCapacity = true) (disk : Disk)
    (sessionId unique : String) :
    ∃ launch service transport,
      (Launch.ofSettings? records keys settings disk sessionId unique).1 = some launch ∧
      launch.remote = some (service, transport) ∧
      launch.emitter.limiter =
        ⟨settings.dedupWindow, settings.dedupThreshold, settings.dedupMostKeys, []⟩ ∧
      service.settings = (settings.queueCapacity, settings.overflow, settings.batchSize,
        settings.flushInterval) ∧
      ∀ events system effects,
        (Delivery.System.ofService service).run? events = some (system, effects) →
        ∀ effect ∈ effects, ∀ batch, effect.carried? = some batch →
          1 ≤ batch.length ∧ batch.length ≤ settings.batchSize ∧
            batch.length ≤ Settings.mostBatchSize := by
  obtain ⟨-, usable⟩ := Settings.load_eq_ok loaded
  obtain ⟨transport, launched⟩ := usable.launch remote keysFit recordsFit disk sessionId unique
  refine ⟨_, settings.started, transport, launched, rfl, rfl, usable.started_settings, ?_⟩
  intro events system effects run effect member batch carried
  exact usable.carried run member carried

/-- Batches of two records. -/
def pairs : Environment :=
  [("TELEMETRY_ENDPOINT", "http://localhost:3000/"), ("TELEMETRY_BATCH_SIZE", " 2 ")]

theorem Launch.batches_within_limit_pairs :
    ∃ settings launch service transport,
      Settings.load pairs = (.ok settings, []) ∧ settings.batchSize = 2 ∧
      (Launch.ofSettings? .records .keys settings .empty "session" "1").1 = some launch ∧
      launch.remote = some (service, transport) ∧
      ∀ events system effects,
        (Delivery.System.ofService service).run? events = some (system, effects) →
        ∀ effect ∈ effects, ∀ batch, effect.carried? = some batch →
          batch.length = 1 ∨ batch.length = 2 := by
  have loaded : Settings.load pairs = (.ok (Settings.ofEnvironment pairs).1, []) := by rfl
  have size : (Settings.ofEnvironment pairs).1.batchSize = 2 := by rfl
  have keys : (Settings.ofEnvironment pairs).1.dedupMostKeys = 1024 := by rfl
  have capacity : (Settings.ofEnvironment pairs).1.queueCapacity = 500 := by rfl
  have keysFit : Room.keys.grants (Settings.ofEnvironment pairs).1.dedupMostKeys = true := by
    rw [keys]
    decide
  have recordsFit : Room.records.grants (Settings.ofEnvironment pairs).1.queueCapacity = true := by
    rw [capacity]
    decide
  obtain ⟨launch, service, transport, launched, remote, -, -, bounded⟩ :=
    Launch.batches_within_limit loaded rfl keysFit recordsFit .empty "session" "1"
  refine ⟨_, launch, service, transport, loaded, size, launched, remote, ?_⟩
  intro events system effects run effect member batch carried
  obtain ⟨least, most, -⟩ := bounded events system effects run effect member batch carried
  omega

end FeedMonitor
