import FeedMonitor.Collector.Transport
import FeedMonitor.Proofs.Text.Trim

/-!
One payload is handed over once, and never without the key.

A posting is taken apart into its four outcomes first. A beacon only comes before a posting, and only
if there is no key; so what holds of a posting holds of the whole. Which key there is, is said of each
source on its own, and that the next payload finds the same.
-/

namespace FeedMonitor.Collector

/-- Texts that no field of a request can hold: a byte of theirs is a control byte other than the tab. -/
def Unsendable (text : String) : Prop :=
  ∃ byte ∈ text.toUTF8.toList, byte < 32 ∧ byte ≠ 9 ∨ byte = 127

theorem ofText?_eq_none_iff {name text : String} :
    Web.Header.ofText? name text = none ↔ Unsendable text := by
  have illegal (byte : UInt8) :
      Web.Header.isLegal byte = false ↔ byte < 32 ∧ byte ≠ 9 ∨ byte = 127 := by
    simp only [Web.Header.isLegal, Bool.or_eq_false_iff, Bool.and_eq_false_iff,
      decide_eq_false_iff_not, bne_eq_false_iff_eq, beq_eq_false_iff_ne, UInt8.not_le]
    constructor
    · rintro ⟨low | delete, plain⟩
      · exact .inl ⟨low, plain⟩
      · exact .inr delete
    · rintro (⟨low, plain⟩ | rfl)
      · exact ⟨.inl low, plain⟩
      · exact ⟨.inr rfl, by decide⟩
  simp only [Web.Header.ofText?, Unsendable, ← illegal]
  split
  · rename_i legal
    simp only [reduceCtorEq, false_iff, not_exists, not_and]
    exact fun byte member => by simp [List.all_eq_true.mp legal byte member]
  · rename_i other
    simp only [true_iff]
    simpa using other

def Response.Granted (response : Response) : Prop :=
  ∃ status : Nat, response = .status status ∧ 200 ≤ status ∧ status < 300

namespace Transport

def keyText? (transport : Transport) : Option String := transport.key.bind fun key => key.resolve.1

def Act.offer? : Act → Option (String × List UInt8)
  | .offered url payload => some (url, payload)
  | .posted .. => none

def Act.post? : Act → Option (String × List UInt8)
  | .offered .. => none
  | .posted url _ payload => some (url, payload)

def keysIn (headers : List Web.Header) : List Web.Header :=
  headers.filter fun header => header.hasName keyHeader

/-- The fields carry this key, and no key if there is none. -/
def Carries (key : Option String) (headers : List Web.Header) : Prop :=
  keysIn headers = key.toList.map fun text => ⟨keyHeader, text.toUTF8.toList⟩

def alarms (journal : Journal) : Journal := journal.filter fun entry => entry.severity.isEchoed

def Outcome.offers (outcome : Outcome) : List (String × List UInt8) :=
  outcome.acts.filterMap Act.offer?

def Outcome.posts (outcome : Outcome) : List (String × List UInt8) :=
  outcome.acts.filterMap Act.post?

/-- What a payload comes to that a beacon has refused first. -/
def Outcome.afterRefusal (outcome : Outcome) (url : String) (payload : List UInt8) : Outcome :=
  { outcome with
    acts := .offered url payload :: outcome.acts
    journal := refusedLine :: outcome.journal }

theorem Outcome.offers_afterRefusal (outcome : Outcome) (url : String) (payload : List UInt8) :
    (outcome.afterRefusal url payload).offers = (url, payload) :: outcome.offers := rfl

theorem Outcome.posts_afterRefusal (outcome : Outcome) (url : String) (payload : List UInt8) :
    (outcome.afterRefusal url payload).posts = outcome.posts := rfl

variable {transport : Transport} {surroundings : Surroundings} {response : Response}
  {key : Option String} {payload : List UInt8} {outcome : Outcome}

theorem headers_of_unsendable {text : String} (unsendable : Unsendable text) :
    ∃ reason, headers (some text) = .error (.invalidConfig reason) := by
  have none : Web.Header.ofText? keyHeader text = none := ofText?_eq_none_iff.mpr unsendable
  simp only [headers, none]
  exact ⟨_, rfl⟩

theorem exists_headers (sendable : ∀ text, key = some text → ¬Unsendable text) :
    ∃ fields, headers key = .ok fields ∧ Carries key fields := by
  cases key with
  | none => exact ⟨_, rfl, (by decide +kernel : keysIn [contentType] = [])⟩
  | some text =>
    cases found : Web.Header.ofText? keyHeader text with
    | none => exact absurd (ofText?_eq_none_iff.mp found) (sendable text rfl)
    | some field =>
      have value : field = ⟨keyHeader, text.toUTF8.toList⟩ := by
        simp only [Web.Header.ofText?] at found
        split at found
        · exact (Option.some.inj found).symm
        · contradiction
      have named : field.hasName keyHeader = true := by
        rw [value]
        exact BEq.rfl
      have other : contentType.hasName keyHeader = false := by decide +kernel
      refine ⟨[contentType, field], by simp only [headers, found], ?_⟩
      rw [Carries, keysIn, List.filter_cons_of_neg (by simp [other]),
        List.filter_eq_self.mpr (by simpa using named), value]
      rfl

/-! ### A request -/

/-- A payload that goes by request, with `key` if there is one. -/
structure Posted (transport : Transport) (response : Response) (key : Option String)
    (payload : List UInt8) (outcome : Outcome) : Prop where
  offers : outcome.offers = []
  posts : (∀ text, key = some text → ¬Unsendable text) → outcome.posts = [(transport.url, payload)]
  unsendable : ∀ text, key = some text → Unsendable text →
    (∃ reason, outcome.result = .error (.invalidConfig reason)) ∧ outcome.acts = []
  carries : ∀ url fields bytes, .posted url fields bytes ∈ outcome.acts → Carries key fields
  beacon : outcome.result ≠ .ok .beacon
  request : outcome.result = .ok .request ↔ outcome.posts ≠ [] ∧ response.Granted
  calm : alarms outcome.journal = []

theorem posted_of_unsendable {text : String} (unsendable : Unsendable text) :
    Posted transport response (some text) payload
      (transport.post response (some text) payload) := by
  obtain ⟨reason, refused⟩ := headers_of_unsendable unsendable
  have post : transport.post response (some text) payload =
      ⟨.error (.invalidConfig reason), [], []⟩ := by
    simp only [Transport.post, refused]
  rw [post]
  refine ⟨rfl, fun sendable => absurd unsendable (sendable text rfl), fun _ _ _ => ⟨⟨_, rfl⟩, rfl⟩,
    by simp, by simp, ?_, rfl⟩
  simp [Outcome.posts]

theorem posted_of_sendable (sendable : ∀ text, key = some text → ¬Unsendable text) :
    Posted transport response key payload (transport.post response key payload) := by
  obtain ⟨fields, built, carried⟩ := exists_headers sendable
  have carries : ∀ url headers bytes,
      .posted url headers bytes ∈ [Act.posted transport.url fields payload] →
        Carries key headers := by
    intro url headers bytes member
    cases List.mem_singleton.mp member
    exact carried
  have never : ∀ text, key = some text → Unsendable text → False := sendable
  cases response with
  | failed cause =>
    have post : transport.post (.failed cause) key payload =
        ⟨.error (.transport cause), [.posted transport.url fields payload], []⟩ := by
      simp only [Transport.post, built]
    rw [post]
    refine ⟨rfl, fun _ => rfl, fun text same bad => (never text same bad).elim, carries, by simp, ?_,
      rfl⟩
    simp [Response.Granted]
  | status status =>
    by_cases success : Web.Status.isSuccess status = true
    · have post : transport.post (.status status) key payload =
          ⟨.ok .request, [.posted transport.url fields payload],
            [Journal.telemetry .debug s!"Batch accepted with status {Web.Status.text status}"]⟩ := by
        simp only [Transport.post, built, success, if_true]
      have granted : (Response.status status).Granted := by
        simp only [Web.Status.isSuccess, Bool.and_eq_true, decide_eq_true_eq] at success
        exact ⟨status, rfl, success⟩
      rw [post]
      refine ⟨rfl, fun _ => rfl, fun text same bad => (never text same bad).elim, carries, by simp,
        ?_, rfl⟩
      simp [Outcome.posts, Act.post?, granted]
    · have post : transport.post (.status status) key payload =
          ⟨.error (.rejected status), [.posted transport.url fields payload], []⟩ := by
        simp only [Transport.post, built, success, Bool.false_eq_true, if_false]
      have denied : ¬(Response.status status).Granted := by
        rintro ⟨other, same, least, most⟩
        cases same
        exact success (by simp [Web.Status.isSuccess, least, most])
      rw [post]
      refine ⟨rfl, fun _ => rfl, fun text same bad => (never text same bad).elim, carries, by simp,
        ?_, rfl⟩
      simp [denied]

theorem posted_post (transport : Transport) (response : Response) (key : Option String)
    (payload : List UInt8) :
    Posted transport response key payload (transport.post response key payload) := by
  by_cases unsendable : ∃ text, key = some text ∧ Unsendable text
  · obtain ⟨text, rfl, bad⟩ := unsendable
    exact posted_of_unsendable bad
  · exact posted_of_sendable fun text same bad => unsendable ⟨text, same, bad⟩

/-! ### The whole -/

/-- The payload may go by a beacon. -/
def Light (transport : Transport) (payload : List UInt8) : Prop :=
  transport.hasBeacon = true ∧ payload.length < transport.threshold ∧ transport.keyText? = none

theorem choose_eq_beacon_iff :
    transport.choose payload.length transport.keyText?.isSome = .beacon ↔
      transport.Light payload := by
  unfold choose Light
  split
  · rename_i chosen
    simpa [and_assoc] using chosen
  · rename_i refused
    simpa [and_assoc] using refused

theorem trySend_eq (transport : Transport) (surroundings : Surroundings) (payload : List UInt8) :
    (transport.trySend surroundings payload).1 =
      match transport.choose payload.length transport.keyText?.isSome with
      | .beacon =>
        if surroundings.accepts then ⟨.ok .beacon, [.offered transport.url payload], []⟩
        else (transport.post surroundings.response transport.keyText? payload).afterRefusal
          transport.url payload
      | .request => transport.post surroundings.response transport.keyText? payload := by
  unfold trySend keyText?
  cases transport.key with
  | none =>
    dsimp only [Option.bind_none]
    cases transport.choose payload.length (none : Option String).isSome with
    | beacon => cases surroundings.accepts <;> rfl
    | request => rfl
  | some source =>
    dsimp only [Option.bind_some]
    cases source.resolve with
    | mk key resolved =>
      dsimp only
      cases transport.choose payload.length key.isSome with
      | beacon => cases surroundings.accepts <;> rfl
      | request => rfl

/-- What handing a payload over comes to, and what was done for it. -/
structure HandsOver (transport : Transport) (surroundings : Surroundings) (payload : List UInt8)
    (outcome : Outcome) : Prop where
  offers : outcome.offers = [] ∨ outcome.offers = [(transport.url, payload)]
  posts : outcome.posts = [] ∨ outcome.posts = [(transport.url, payload)]
  offered : outcome.offers ≠ [] ↔ transport.hasBeacon = true ∧
    payload.length < transport.threshold ∧ transport.keyText? = none
  /-- There is no request if the beacon took the payload, or if no request can carry the key. -/
  unposted : outcome.posts = [] ↔ (outcome.offers ≠ [] ∧ surroundings.accepts = true) ∨
    ∃ text, transport.keyText? = some text ∧ Unsendable text
  carries : ∀ url fields bytes, .posted url fields bytes ∈ outcome.acts →
    Carries transport.keyText? fields
  unsendable : ∀ text, transport.keyText? = some text → Unsendable text →
    (∃ reason, outcome.result = .error (.invalidConfig reason)) ∧ outcome.acts = []
  beacon : outcome.result = .ok .beacon ↔ outcome.offers ≠ [] ∧ surroundings.accepts = true
  request : outcome.result = .ok .request ↔ outcome.posts ≠ [] ∧ surroundings.response.Granted
  calm : alarms outcome.journal = []

theorem Posted.posts_eq_nil_iff (posted : Posted transport response key payload outcome) :
    outcome.posts = [] ↔ ∃ text, key = some text ∧ Unsendable text := by
  by_cases unsendable : ∃ text, key = some text ∧ Unsendable text
  · obtain ⟨text, same, bad⟩ := unsendable
    have still := (posted.unsendable text same bad).2
    simp [Outcome.posts, still, same, bad]
  · have one := posted.posts fun text same bad => unsendable ⟨text, same, bad⟩
    simp [one, unsendable]

theorem Posted.posts_once (posted : Posted transport response key payload outcome) :
    outcome.posts = [] ∨ outcome.posts = [(transport.url, payload)] := by
  by_cases unsendable : ∃ text, key = some text ∧ Unsendable text
  · exact .inl (posted.posts_eq_nil_iff.mpr unsendable)
  · exact .inr (posted.posts fun text same bad => unsendable ⟨text, same, bad⟩)

theorem Posted.handsOver (posted : Posted transport surroundings.response transport.keyText? payload
    outcome) (heavy : ¬transport.Light payload) :
    HandsOver transport surroundings payload outcome := by
  have unoffered := posted.offers
  refine ⟨.inl unoffered, posted.posts_once, ?_, ?_, posted.carries, posted.unsendable, ?_,
    posted.request, posted.calm⟩
  · exact ⟨fun offered => absurd unoffered offered, fun light => absurd light heavy⟩
  · rw [posted.posts_eq_nil_iff]
    simp [unoffered]
  · simp [unoffered, posted.beacon]

theorem Posted.fallsBack (posted : Posted transport surroundings.response none payload outcome)
    (light : transport.Light payload) (refused : surroundings.accepts = false) :
    HandsOver transport surroundings payload (outcome.afterRefusal transport.url payload) := by
  have offers : (outcome.afterRefusal transport.url payload).offers = [(transport.url, payload)] := by
    rw [Outcome.offers_afterRefusal, posted.offers]
  have posts : (outcome.afterRefusal transport.url payload).posts = [(transport.url, payload)] := by
    rw [Outcome.posts_afterRefusal]
    exact posted.posts (by simp)
  have keyless : transport.keyText? = none := light.2.2
  refine ⟨.inr offers, .inr posts, ?_, ?_, ?_, ?_, ?_, posted.request, posted.calm⟩
  · rw [offers]
    exact ⟨fun _ => light, fun _ => by simp⟩
  · simp [posts, refused, keyless]
  · intro url fields bytes member
    rw [keyless]
    rcases List.mem_cons.mp member with here | behind
    · cases here
    · exact posted.carries url fields bytes behind
  · intro text same
    rw [keyless] at same
    cases same
  · simp [Outcome.afterRefusal, refused, posted.beacon]

theorem handsOver_of_accepted (light : transport.Light payload)
    (accepted : surroundings.accepts = true) :
    HandsOver transport surroundings payload
      ⟨.ok .beacon, [.offered transport.url payload], []⟩ := by
  have offers : Outcome.offers ⟨.ok .beacon, [.offered transport.url payload], []⟩ =
      [(transport.url, payload)] := rfl
  have posts : Outcome.posts ⟨.ok .beacon, [.offered transport.url payload], []⟩ = [] := rfl
  refine ⟨.inr offers, .inl posts, ?_, ?_, by simp, ?_, ?_, ?_, rfl⟩
  · rw [offers]
    exact ⟨fun _ => light, fun _ => by simp⟩
  · simp [offers, posts, accepted]
  · intro text same
    rw [light.2.2] at same
    cases same
  · simp [offers, accepted]
  · simp [posts]

theorem handsOver_trySend (transport : Transport) (surroundings : Surroundings)
    (payload : List UInt8) :
    HandsOver transport surroundings payload (transport.trySend surroundings payload).1 := by
  have posted := posted_post transport surroundings.response transport.keyText? payload
  rw [trySend_eq]
  split
  · rename_i chosen
    have light := choose_eq_beacon_iff.mp chosen
    split
    · rename_i accepted
      exact handsOver_of_accepted light accepted
    · rename_i refused
      rw [light.2.2] at posted ⊢
      exact posted.fallsBack light (Bool.eq_false_iff.mpr refused)
  · rename_i chosen
    have heavy : ¬transport.Light payload := by
      rw [← choose_eq_beacon_iff, chosen]
      decide
    exact posted.handsOver heavy

/-- What is left of an outcome when it is only reported. -/
structure Reports (outcome : Outcome) (sent : Option Channel) (acts : List Act)
    (journal : Journal) : Prop where
  result : ∀ channel, sent = some channel ↔ outcome.result = .ok channel
  still : acts = outcome.acts
  /-- A failure is one line of the log. -/
  told : (alarms journal).length = if sent = none then 1 else 0

theorem isEchoed_failureLine (failure : Failure) : (failureLine failure).severity.isEchoed = true := by
  unfold failureLine
  split <;> rfl

theorem send_of_ok {next : Transport} {channel : Channel}
    (tried : transport.trySend surroundings payload = (outcome, next))
    (result : outcome.result = .ok channel) :
    transport.send surroundings payload = (some channel, outcome.acts, outcome.journal, next) := by
  unfold send
  rw [tried]
  simp only [result]

theorem send_of_error {next : Transport} {failure : Failure}
    (tried : transport.trySend surroundings payload = (outcome, next))
    (result : outcome.result = .error failure) :
    transport.send surroundings payload =
      (none, outcome.acts, outcome.journal ++ [failureLine failure], next) := by
  unfold send
  rw [tried]
  simp only [result]

theorem reports_send {next : Transport}
    (tried : transport.trySend surroundings payload = (outcome, next))
    (calm : alarms outcome.journal = []) :
    Reports outcome (transport.send surroundings payload).1
      (transport.send surroundings payload).2.1 (transport.send surroundings payload).2.2.1 := by
  cases result : outcome.result with
  | ok channel =>
    rw [send_of_ok tried result]
    exact ⟨by simp [result], rfl, by simp [calm]⟩
  | error failure =>
    have one : alarms [failureLine failure] = [failureLine failure] :=
      List.filter_eq_self.mpr (by simpa using isEchoed_failureLine failure)
    have told : alarms (outcome.journal ++ [failureLine failure]) = [failureLine failure] := by
      rw [alarms, List.filter_append, ← alarms, ← alarms, calm, one]
      rfl
    rw [send_of_error tried result]
    exact ⟨by simp [result], rfl, congrArg List.length told⟩

/-! ### The key -/

/-- Which key a payload finds, by where keys come from, and what of that is left for the next one. -/
structure Resolves (transport next : Transport) : Prop where
  keyless : transport.key = none → transport.keyText? = none
  /-- A blank text is no key, and any other one is taken as it is written. -/
  fixed : ∀ text, transport.key = some (.fixed text) →
    (transport.keyText? = none ↔ Text.AllBlank text.toList) ∧
    ∀ key, transport.keyText? = some key → key = text
  /-- An answer that is held is not asked for again. -/
  held : ∀ lookup lookups answer, transport.key = some (.deferred lookup lookups (some answer)) →
    transport.keyText? = answer ∧ next = transport
  asked : ∀ lookup lookups, transport.key = some (.deferred lookup lookups none) →
    transport.keyText? = lookup lookups ∧
    next.key = some (.deferred lookup (lookups + 1) (some (lookup lookups)))
  again : next.keyText? = transport.keyText?
  rest : next = { transport with key := next.key }

theorem trySend_next (transport : Transport) (surroundings : Surroundings) (payload : List UInt8) :
    (transport.trySend surroundings payload).2 =
      { transport with key := transport.key.map fun source => source.resolve.2 } := by
  obtain ⟨url, timeout, key, hasBeacon, threshold⟩ := transport
  unfold trySend
  cases key with
  | none =>
    dsimp only
    split
    · split <;> rfl
    · rfl
  | some source =>
    dsimp only
    split
    · split <;> rfl
    · rfl

theorem send_next (transport : Transport) (surroundings : Surroundings) (payload : List UInt8) :
    (transport.send surroundings payload).2.2.2 = (transport.trySend surroundings payload).2 := by
  unfold send
  split
  rename_i tried
  rw [tried]
  dsimp only
  split <;> rfl

theorem keyText?_of_fixed {text : String} (source : transport.key = some (.fixed text)) :
    transport.keyText? = if (Text.trim text).isEmpty then none else some text := by
  rw [keyText?, source, Option.bind_some, ApiKey.resolve]

theorem resolves_next (transport : Transport) :
    Resolves transport
      { transport with key := transport.key.map fun source => source.resolve.2 } where
  keyless none := by rw [keyText?, none, Option.bind_none]
  fixed text source := by
    rw [keyText?_of_fixed source, ← Text.isEmpty_trim_iff]
    split
    · rename_i blank
      simp [blank]
    · rename_i visible
      simp [visible]
  held lookup lookups answer source := by
    obtain ⟨url, timeout, key, hasBeacon, threshold⟩ := transport
    cases source
    exact ⟨rfl, rfl⟩
  asked lookup lookups source := by
    obtain ⟨url, timeout, key, hasBeacon, threshold⟩ := transport
    cases source
    exact ⟨rfl, rfl⟩
  again := by
    simp only [keyText?]
    cases transport.key with
    | none => rfl
    | some source => exact congrArg Prod.fst source.resolve_resolve
  rest := rfl

theorem hand_over_law (transport : Transport) (surroundings : Surroundings)
    (payload : List UInt8) :
    HandsOver transport surroundings payload (transport.trySend surroundings payload).1 ∧
      Reports (transport.trySend surroundings payload).1 (transport.send surroundings payload).1
        (transport.send surroundings payload).2.1
        (transport.send surroundings payload).2.2.1 ∧
      Resolves transport (transport.send surroundings payload).2.2.2 := by
  have hands := handsOver_trySend transport surroundings payload
  refine ⟨hands, reports_send rfl hands.calm, ?_⟩
  rw [send_next, trySend_next]
  exact resolves_next transport

/-- The payload went by request alone, with this key. -/
structure Outcome.Keyed (outcome : Outcome) (url text : String) (payload : List UInt8) : Prop where
  unoffered : outcome.offers = []
  posted : outcome.posts = [(url, payload)]
  carries : ∀ url fields bytes, .posted url fields bytes ∈ outcome.acts →
    Carries (some text) fields

/-- So does every payload with a key that a field can hold. -/
theorem HandsOver.keyed {text : String} (hands : HandsOver transport surroundings payload outcome)
    (key : transport.keyText? = some text) (sendable : ¬Unsendable text) :
    outcome.Keyed transport.url text payload := by
  have unoffered : outcome.offers = [] := by
    by_contra offered
    have keyless := (hands.offered.mp offered).2.2
    rw [key] at keyless
    contradiction
  have posted : outcome.posts ≠ [] := by
    intro unposted
    rcases hands.unposted.mp unposted with ⟨offered, -⟩ | ⟨other, same, bad⟩
    · exact offered unoffered
    · rw [key] at same
      cases same
      exact sendable bad
  exact ⟨unoffered, hands.posts.resolve_left posted, key ▸ hands.carries⟩

/-- A transport that asks for its key, and would get an answer only once. -/
def asking : Transport :=
  { ofUrl "http://localhost/v1/logs/batch" ⟨1⟩ with
    hasBeacon := true
    key := some (.ofLookup fun lookups => if lookups = 0 then some "secret" else none) }

/-- A beacon would take the payload, and a request is granted. -/
def granting : Surroundings := ⟨true, .status 200⟩

/-- Two payloads that are small enough for the beacon go by request, both with the key. -/
theorem hand_over_law_asking :
    (asking.trySend granting [123, 125]).1.Keyed asking.url "secret" [123, 125] ∧
      ((asking.send granting [123, 125]).2.2.2.trySend granting [91, 93]).1.Keyed asking.url "secret"
        [91, 93] := by
  have legal : Web.Header.ofText? keyHeader "secret" ≠ none := by decide +kernel
  have sendable : ¬Unsendable "secret" := mt ofText?_eq_none_iff.mpr legal
  obtain ⟨hands, -, resolves⟩ := hand_over_law asking granting [123, 125]
  have key : asking.keyText? = some "secret" := (resolves.asked _ _ rfl).1
  have later := (hand_over_law (asking.send granting [123, 125]).2.2.2 granting [91, 93]).1
  have same : (asking.send granting [123, 125]).2.2.2.url = asking.url := by rw [resolves.rest]
  refine ⟨hands.keyed key sendable, ?_⟩
  rw [← same]
  exact later.keyed (resolves.again.trans key) sendable

end Transport

end FeedMonitor.Collector
