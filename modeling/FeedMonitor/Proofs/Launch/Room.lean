import FeedMonitor.Proofs.Launch

/-!
Which settings leave room to start.

Room is set aside for all records that may wait and for all keys that may be tracked. Settings are
checked for a least number of both and for no greatest one, so there are settings without a fault
that ask for more room than there can be, and nothing starts from them.
-/

namespace FeedMonitor

namespace Settings

variable {settings : Settings}

theorem check_eq_ok_iff : settings.check = .ok () ↔ settings.fault? = none := by
  unfold check
  cases settings.fault? with
  | none => simp
  | some fault => simp

theorem Usable.fault?_eq_none (usable : settings.Usable) : settings.fault? = none := by
  have threshold := usable.threshold
  have keys := usable.keys
  have capacity := usable.capacity
  have batchSize := usable.batchSize
  unfold Settings.fault?
  rw [if_neg (by omega), if_neg (by omega), if_neg (by omega), if_neg (by simp; omega),
    if_neg (by simp [usable.interval]), usable.endpoint, if_pos (by simpa using usable.logLevel)]

theorem check_eq_ok_iff_usable : settings.check = .ok () ↔ settings.Usable :=
  check_eq_ok_iff.trans ⟨usable_of_fault?, Usable.fault?_eq_none⟩

theorem Usable.withCapacity (usable : settings.Usable) {count : Nat} (positive : 0 < count) :
    Usable { settings with queueCapacity := count } where
  threshold := usable.threshold
  keys := usable.keys
  capacity := positive
  batchSize := usable.batchSize
  interval := usable.interval
  endpoint := usable.endpoint
  logLevel := usable.logLevel

theorem Usable.withMostKeys (usable : settings.Usable) {count : Nat} (positive : 0 < count) :
    Usable { settings with dedupMostKeys := count } where
  threshold := usable.threshold
  keys := positive
  capacity := usable.capacity
  batchSize := usable.batchSize
  interval := usable.interval
  endpoint := usable.endpoint
  logLevel := usable.logLevel

theorem Usable.service_of_crowded (usable : settings.Usable) {records : Room}
    (crowded : records.grants settings.queueCapacity = false) :
    Launch.service? records settings = none := by
  rw [Launch.service?, Delivery.Queue.reserve?, usable.capacity_eq, crowded]
  rfl

theorem Usable.emitter_of_crowded (usable : settings.Usable) {keys : Room}
    (crowded : keys.grants settings.dedupMostKeys = false) (identity : Identity) :
    Emitter.ofSettings? keys settings identity = none := by
  rw [Emitter.ofSettings?, Limiter.reserve?, usable.keys_eq, crowded]
  rfl

/-- The queue is made before anything is read from the disk. -/
theorem Usable.launch_without_records (usable : settings.Usable) {records : Room}
    (remote : settings.remoteEnabled = true)
    (crowded : records.grants settings.queueCapacity = false) (keys : Room) (disk : Disk)
    (sessionId unique : String) :
    Launch.ofSettings? records keys settings disk sessionId unique = (none, disk, []) := by
  obtain ⟨transport, reached⟩ := usable.transport remote
  simp only [Launch.ofSettings?, reached, usable.service_of_crowded crowded]

theorem Usable.launch_without_keys (usable : settings.Usable) {records keys : Room}
    (remote : settings.remoteEnabled = true)
    (granted : records.grants settings.queueCapacity = true)
    (crowded : keys.grants settings.dedupMostKeys = false) (disk : Disk)
    (sessionId unique : String) :
    Launch.ofSettings? records keys settings disk sessionId unique =
      (none, (Identity.resolve disk settings.identityFile sessionId unique).2) := by
  obtain ⟨transport, reached⟩ := usable.transport remote
  simp only [Launch.ofSettings?, reached, usable.service granted,
    usable.emitter_of_crowded crowded, Option.map_none]

end Settings

namespace Launch

/-- What settings with remote delivery start that have passed the check, with the room that there is
for records and for keys. -/
structure RoomLaw (records keys : Room) (settings : Settings) (disk : Disk)
    (sessionId unique : String) : Prop where
  /-- They start if room is granted for both counts. -/
  started : (∃ launch, (ofSettings? records keys settings disk sessionId unique).1 = some launch) ↔
    records.grants settings.queueCapacity = true ∧ keys.grants settings.dedupMostKeys = true
  remote : ∀ launch, (ofSettings? records keys settings disk sessionId unique).1 = some launch →
    launch.remote.isSome
  /-- Items of one byte each would take more than there is, so nothing starts. -/
  bounded : Room.mostBytes < settings.queueCapacity ∨ Room.mostBytes < settings.dedupMostKeys →
    (ofSettings? records keys settings disk sessionId unique).1 = none
  /-- Without room for the records nothing has happened, not even to the identity. -/
  untouched : records.grants settings.queueCapacity = false →
    ofSettings? records keys settings disk sessionId unique = (none, disk, [])
  /-- Without room for the keys the identity has been kept before. -/
  kept : records.grants settings.queueCapacity = true →
    keys.grants settings.dedupMostKeys = false →
    ofSettings? records keys settings disk sessionId unique =
      (none, (Identity.resolve disk settings.identityFile sessionId unique).2)
  /-- The check turns no count away for which there can be no room. -/
  unchecked : ∀ count, 0 < count →
    { settings with queueCapacity := count }.check = .ok () ∧
      { settings with dedupMostKeys := count }.check = .ok ()

theorem room_law {settings : Settings} (accepted : settings.check = .ok ())
    (remote : settings.remoteEnabled = true) (records keys : Room) (disk : Disk)
    (sessionId unique : String) :
    RoomLaw records keys settings disk sessionId unique := by
  have usable := Settings.check_eq_ok_iff_usable.mp accepted
  have both (launch : Launch)
      (launched : (ofSettings? records keys settings disk sessionId unique).1 = some launch) :
      records.grants settings.queueCapacity = true ∧ keys.grants settings.dedupMostKeys = true := by
    cases recordsFit : records.grants settings.queueCapacity with
    | false =>
      rw [usable.launch_without_records remote recordsFit] at launched
      contradiction
    | true =>
      cases keysFit : keys.grants settings.dedupMostKeys with
      | false =>
        rw [usable.launch_without_keys remote recordsFit keysFit] at launched
        contradiction
      | true => exact ⟨rfl, rfl⟩
  refine ⟨⟨?_, ?_⟩, ?_, ?_, ?_, ?_, ?_⟩
  · rintro ⟨launch, launched⟩
    exact both launch launched
  · rintro ⟨recordsFit, keysFit⟩
    obtain ⟨transport, launched⟩ := usable.launch remote keysFit recordsFit disk sessionId unique
    exact ⟨_, launched⟩
  · intro launch launched
    obtain ⟨recordsFit, keysFit⟩ := both launch launched
    obtain ⟨transport, same⟩ := usable.launch remote keysFit recordsFit disk sessionId unique
    rw [same, Option.some_inj] at launched
    rw [← launched]
    rfl
  · intro large
    refine Option.eq_none_iff_forall_ne_some.mpr fun launch launched => ?_
    obtain ⟨recordsFit, keysFit⟩ := both launch launched
    rcases large with recordsLarge | keysLarge
    · exact absurd (records.bounded recordsFit) (Nat.not_le.mpr recordsLarge)
    · exact absurd (keys.bounded keysFit) (Nat.not_le.mpr keysLarge)
  · intro crowded
    exact usable.launch_without_records remote crowded keys disk sessionId unique
  · intro granted crowded
    exact usable.launch_without_keys remote granted crowded disk sessionId unique
  · intro count positive
    exact ⟨Settings.check_eq_ok_iff_usable.mpr (usable.withCapacity positive),
      Settings.check_eq_ok_iff_usable.mpr (usable.withMostKeys positive)⟩

def counting (name count : String) : Environment :=
  [("TELEMETRY_ENDPOINT", "http://127.0.0.1:9"), (name, count)]

def twoPlaces : Environment := counting "TELEMETRY_QUEUE_CAPACITY" "2"

theorem room_law_two :
    ∃ settings launch,
      Settings.load twoPlaces = (.ok settings, []) ∧
      settings.check = .ok () ∧ settings.remoteEnabled = true ∧ settings.queueCapacity = 2 ∧
      (ofSettings? .records .keys settings .empty "session" "1").1 = some launch ∧
      launch.remote.isSome ∧
      { settings with queueCapacity := 0x8000000000000000 }.check = .ok () ∧
      (ofSettings? .records .keys { settings with queueCapacity := 0x8000000000000000 } .empty
        "session" "1").1 = none := by
  have loaded : Settings.load twoPlaces = (.ok (Settings.ofEnvironment twoPlaces).1, []) := by rfl
  have accepted : (Settings.ofEnvironment twoPlaces).1.check = .ok () :=
    Settings.check_eq_ok_iff_usable.mpr (Settings.load_eq_ok loaded).2
  have law := room_law accepted rfl .records .keys .empty "session" "1"
  have capacity : (Settings.ofEnvironment twoPlaces).1.queueCapacity = 2 := by rfl
  have most : (Settings.ofEnvironment twoPlaces).1.dedupMostKeys = 1024 := by rfl
  have larger := (law.unchecked 0x8000000000000000 (by decide)).1
  have nothing :=
    (room_law larger rfl .records .keys .empty "session" "1").bounded (.inl (by decide))
  obtain ⟨launch, launched⟩ := law.started.mpr
    ⟨by rw [capacity]; decide, by rw [most]; decide⟩
  exact ⟨_, launch, loaded, accepted, rfl, capacity, launched, law.remote launch launched, larger,
    nothing⟩

/-- Counts that can be read and pass the check leave nothing to start with. -/
theorem no_room_for_largest_counts :
    (∃ settings,
      Settings.load (counting "TELEMETRY_QUEUE_CAPACITY" "18446744073709551615") =
        (.ok settings, []) ∧
      settings.check = .ok () ∧ settings.remoteEnabled = true ∧
      (ofSettings? .records .keys settings .empty "session" "1").1 = none) ∧
    ∃ settings,
      Settings.load (counting "TELEMETRY_DEDUP_MAX_KEYS" "18446744073709551615") =
        (.ok settings, []) ∧
      settings.check = .ok () ∧ settings.remoteEnabled = true ∧
      (ofSettings? .records .keys settings .empty "session" "1").1 = none :=
  ⟨⟨_, rfl, rfl, rfl, rfl⟩, ⟨_, rfl, rfl, rfl, rfl⟩⟩

end Launch

end FeedMonitor
