import FeedMonitor.Proofs.Number.Numeral
import FeedMonitor.Settings

/-!
Each variable of an environment acts on its own setting.

Settings depend on the last value under each of the sixteen names and on nothing else. A variable
that is changed alone changes its own setting, and the endpoint also decides whether records are
sent where no flag says so. A value that cannot be read is as good as none.
-/

namespace FeedMonitor

namespace Environment

/-- The last pair of a name has this value. -/
def GivesLast (environment : Environment) (name value : String) : Prop :=
  ∃ before after, environment = before ++ (name, value) :: after ∧ ∀ pair ∈ after, pair.1 ≠ name

/-- Two lists give the same last value under a name, or none. -/
def Agree (name : String) (environment other : Environment) : Prop :=
  ∀ value, environment.GivesLast name value ↔ other.GivesLast name value

theorem value?_eq_some_iff {environment : Environment} {name value : String} :
    environment.value? name = some value ↔ environment.GivesLast name value := by
  rw [value?, List.lookup_eq_some_iff]
  constructor
  · rintro ⟨before, after, split, apart⟩
    refine ⟨after.reverse, before.reverse, ?_, fun pair member same => ?_⟩
    · have reversed := congrArg List.reverse split
      simpa using reversed
    · have differ := apart pair (List.mem_reverse.mp member)
      simp [same] at differ
  · rintro ⟨before, after, rfl, apart⟩
    refine ⟨after.reverse, before.reverse, by simp, fun pair member => ?_⟩
    have differ := apart pair (List.mem_reverse.mp member)
    simpa using differ.symm

theorem agree_iff {name : String} {environment other : Environment} :
    Agree name environment other ↔ environment.value? name = other.value? name := by
  simp only [Agree, ← value?_eq_some_iff]
  constructor
  · exact Option.ext
  · intro same value
    rw [same]

end Environment

namespace Settings

/-! ### Fields -/

/-- What the setting of a variable is. -/
def Variable.Field : Variable → Type
  | dedupWindow | flushInterval | requestTimeout => Span
  | dedupThreshold | dedupMostKeys | batchSize | queueCapacity => Nat
  | remoteEnabled => Bool
  | overflow => Delivery.Overflow
  | endpoint | apiKey | identityFile => Option String
  | environment | appVersion | source | logLevel => String

def field (settings : Settings) : (setting : Variable) → setting.Field
  | .dedupWindow => settings.dedupWindow
  | .dedupThreshold => settings.dedupThreshold
  | .dedupMostKeys => settings.dedupMostKeys
  | .endpoint => settings.endpoint
  | .remoteEnabled => settings.remoteEnabled
  | .apiKey => settings.apiKey
  | .batchSize => settings.batchSize
  | .flushInterval => settings.flushInterval
  | .queueCapacity => settings.queueCapacity
  | .overflow => settings.overflow
  | .environment => settings.environment
  | .appVersion => settings.appVersion
  | .source => settings.source
  | .identityFile => settings.identityFile
  | .requestTimeout => settings.requestTimeout
  | .logLevel => settings.logLevel

/-- Settings are known by their fields. -/
theorem ext_field {settings other : Settings}
    (same : ∀ setting, settings.field setting = other.field setting) : settings = other := by
  cases settings
  cases other
  simp only [mk.injEq]
  exact ⟨same .dedupWindow, same .dedupThreshold, same .dedupMostKeys, same .endpoint,
    same .remoteEnabled, same .apiKey, same .batchSize, same .flushInterval, same .queueCapacity,
    same .overflow, same .environment, same .appVersion, same .source, same .identityFile,
    same .requestTimeout, same .logLevel⟩

/-! ### Values that can be read -/

/-- Whether a setting can be read from a text. One that is a text itself always can. -/
def Variable.Reads (text : String) : Variable → Prop
  | dedupThreshold => Numeral.Whole mostThreshold (Text.trim text).toList
  | dedupWindow | dedupMostKeys | batchSize | flushInterval | queueCapacity | requestTimeout =>
    Numeral.Whole mostCount (Text.trim text).toList
  | remoteEnabled => Text.asciiLower (Text.trim text) ∈ yesWords ++ noWords
  | overflow => ∃ policy, (Delivery.Overflow.hyphenate (Text.asciiLower (Text.trim text)), policy) ∈
    Delivery.Overflow.words
  | endpoint | apiKey | environment | appVersion | source | identityFile | logLevel => True

theorem numberOf?_eq_none {most : Nat} {text : String}
    (unread : ¬Numeral.Whole most (Text.trim text).toList) : numberOf? most (some text) = none := by
  rw [← Numeral.unsigned?_isSome_iff, Option.not_isSome_iff_eq_none] at unread
  rw [numberOf?, Option.bind_some, unread]

theorem millisOf?_eq_none {text : String}
    (unread : ¬Numeral.Whole mostCount (Text.trim text).toList) : millisOf? (some text) = none := by
  rw [millisOf?, numberOf?_eq_none unread, Option.map_none]

theorem flagOf?_eq_none_iff {text : String} :
    flagOf? (some text) = none ↔ ¬Variable.remoteEnabled.Reads text := by
  simp only [flagOf?, Variable.Reads, Option.bind_some, List.contains_eq_mem, decide_eq_true_eq,
    List.mem_append]
  split
  · rename_i yes
    simp [yes]
  · rename_i notYes
    simp [notYes]

theorem overflowOf_unread {text : String} (unread : ¬Variable.overflow.Reads text) :
    (overflowOf (some text)).1 = default := by
  have unknown : Delivery.Overflow.words.lookup
      (Delivery.Overflow.hyphenate (Text.asciiLower (Text.trim text))) = none := by
    refine List.lookup_eq_none_iff.mpr fun pair member => ?_
    have differ (same : Delivery.Overflow.hyphenate (Text.asciiLower (Text.trim text)) = pair.1) :
        False := unread ⟨pair.2, same ▸ member⟩
    simpa using differ
  have refused : Delivery.Overflow.parse text =
      .error ⟨"overflow policy",
        Delivery.Overflow.hyphenate (Text.asciiLower (Text.trim text))⟩ := by
    rw [Delivery.Overflow.parse, Text.choose, unknown]
  rw [overflowOf.eq_def]
  simp only [refused]

/-! ### One variable at a time -/

variable {values others : Variable → Option String} {setting : Variable}

/-- A setting depends on its own value. -/
theorem field_ofValues (apart : setting ≠ .remoteEnabled)
    (same : values setting = others setting) :
    (ofValues values).1.field setting = (ofValues others).1.field setting := by
  cases setting with
  | remoteEnabled => contradiction
  | _ =>
    simp only [field, ofValues, same]
    rfl

/-- Whether records are sent depends on its own value, and on the endpoint if that is no flag. -/
theorem remoteEnabled_ofValues (same : values .remoteEnabled = others .remoteEnabled)
    (decided : flagOf? (values .remoteEnabled) ≠ none ∨ values .endpoint = others .endpoint) :
    (ofValues values).1.remoteEnabled = (ofValues others).1.remoteEnabled := by
  simp only [ofValues, ← same]
  rcases decided with flag | endpoint
  · obtain ⟨answer, given⟩ := Option.ne_none_iff_exists'.mp flag
    rw [given, Option.getD_some, Option.getD_some]
  · rw [endpoint]

/-- A value that cannot be read gives what no value gives. -/
theorem field_ofValues_unread {text : String} (given : values setting = some text)
    (absent : others setting = none) (unread : ¬setting.Reads text)
    (endpoint : values .endpoint = others .endpoint) :
    (ofValues values).1.field setting = (ofValues others).1.field setting := by
  cases setting with
  | dedupThreshold | dedupMostKeys | batchSize | queueCapacity =>
    have none := numberOf?_eq_none unread
    simp only [field, ofValues, given, absent, none]
    rfl
  | dedupWindow | flushInterval | requestTimeout =>
    have none := millisOf?_eq_none unread
    simp only [field, ofValues, given, absent, none]
    rfl
  | remoteEnabled =>
    have none := flagOf?_eq_none_iff.mpr unread
    simp only [field, ofValues, given, absent, none, endpoint]
    rfl
  | overflow =>
    have usual := overflowOf_unread unread
    simp only [field, ofValues, given, absent, usual]
    rfl
  | endpoint | apiKey | environment | appVersion | source | identityFile | logLevel =>
    exact absurd trivial unread

/-! ### Environments -/

/-- Two environments give the same last value under every name but that of one variable. -/
def DifferOnly (setting : Variable) (environment other : Environment) : Prop :=
  ∀ another, another ≠ setting → environment.Agree another.name other

/-- The environment says with a flag whether records are sent. -/
def Flagged (environment : Environment) : Prop :=
  ∃ text, environment.GivesLast Variable.remoteEnabled.name text ∧ Variable.remoteEnabled.Reads text

variable {environment other : Environment}

theorem DifferOnly.value? (differ : DifferOnly setting environment other) {another : Variable}
    (apart : another ≠ setting) :
    environment.value? another.name = other.value? another.name :=
  Environment.agree_iff.mp (differ another apart)

theorem Flagged.flagOf? (flagged : Flagged environment) :
    flagOf? (environment.value? Variable.remoteEnabled.name) ≠ none := by
  obtain ⟨text, given, reads⟩ := flagged
  rw [Environment.value?_eq_some_iff.mpr given, ne_eq, flagOf?_eq_none_iff, not_not]
  exact reads

theorem DifferOnly.field (differ : DifferOnly setting environment other) {another : Variable}
    (apart : another ≠ setting) (direct : ¬(setting = .endpoint ∧ another = .remoteEnabled)) :
    (ofEnvironment environment).1.field another = (ofEnvironment other).1.field another := by
  by_cases remote : another = .remoteEnabled
  · subst remote
    have endpoint : Variable.endpoint ≠ setting := fun same => direct ⟨same.symm, rfl⟩
    exact remoteEnabled_ofValues (differ.value? apart) (.inr (differ.value? endpoint))
  · exact field_ofValues remote (differ.value? apart)

theorem DifferOnly.remoteEnabled (differ : DifferOnly .endpoint environment other)
    (flagged : Flagged environment) :
    (ofEnvironment environment).1.remoteEnabled = (ofEnvironment other).1.remoteEnabled :=
  remoteEnabled_ofValues (differ.value? (by decide)) (.inl flagged.flagOf?)

theorem DifferOnly.journal (differ : DifferOnly setting environment other)
    (apart : setting ≠ .overflow) :
    (ofEnvironment environment).2 = (ofEnvironment other).2 := by
  have same := differ.value? apart.symm
  simp only [ofEnvironment, ofValues, same]

theorem DifferOnly.unread (differ : DifferOnly setting environment other) {text : String}
    (given : environment.GivesLast setting.name text) (unread : ¬setting.Reads text)
    (absent : ∀ value, ¬other.GivesLast setting.name value) :
    (ofEnvironment environment).1 = (ofEnvironment other).1 := by
  have given := Environment.value?_eq_some_iff.mpr given
  have absent : other.value? setting.name = none :=
    Option.eq_none_iff_forall_ne_some.mpr fun value held =>
      absent value (Environment.value?_eq_some_iff.mp held)
  -- An endpoint can be any text, so it is not the endpoint that is unread.
  have endpoint : Variable.endpoint ≠ setting := by
    rintro rfl
    exact unread trivial
  refine ext_field fun another => ?_
  by_cases here : another = setting
  · subst here
    exact field_ofValues_unread given absent unread (differ.value? endpoint)
  · exact differ.field here fun both => endpoint both.1.symm

/-- Settings and warnings are those of the last values, a variable moves its own setting alone, and
a value that cannot be read does as none does. -/
theorem variables_apart :
    (∀ environment other : Environment,
      (∀ setting : Variable, environment.Agree setting.name other) →
        ofEnvironment environment = ofEnvironment other) ∧
    (∀ setting environment other, DifferOnly setting environment other →
      (∀ another, another ≠ setting → ¬(setting = .endpoint ∧ another = .remoteEnabled) →
        (ofEnvironment environment).1.field another = (ofEnvironment other).1.field another) ∧
      (setting = .endpoint → Flagged environment →
        (ofEnvironment environment).1.remoteEnabled = (ofEnvironment other).1.remoteEnabled) ∧
      (setting ≠ .overflow → (ofEnvironment environment).2 = (ofEnvironment other).2)) ∧
    ∀ setting environment other, DifferOnly setting environment other →
      ∀ text, environment.GivesLast setting.name text → ¬setting.Reads text →
        (∀ value, ¬other.GivesLast setting.name value) →
          (ofEnvironment environment).1 = (ofEnvironment other).1 := by
  refine ⟨?_, ?_, ?_⟩
  · intro environment other same
    have values : (fun setting : Variable => environment.value? setting.name) =
        fun setting => other.value? setting.name :=
      funext fun setting => Environment.agree_iff.mp (same setting)
    rw [ofEnvironment, ofEnvironment, values]
  · intro setting environment other differ
    refine ⟨fun another apart direct => differ.field apart direct, ?_, differ.journal⟩
    rintro rfl flagged
    exact differ.remoteEnabled flagged
  · intro setting environment other differ text given unread absent
    exact differ.unread given unread absent

def endpointPair : String × String := ("TELEMETRY_ENDPOINT", "http://localhost:3000")

def sizePair : String × String := ("TELEMETRY_BATCH_SIZE", "lots")

def flagPair : String × String := ("TELEMETRY_REMOTE_ENABLED", " No ")

/-- A size is given twice, and there is a name that stands for no setting. -/
def scattered : Environment :=
  [("TELEMETRY_BATCH_SIZE", "7"), flagPair, ("HOME", "/root"), endpointPair, sizePair]

theorem variables_apart_scattered :
    (∀ setting : Variable, scattered.Agree setting.name [endpointPair, sizePair, flagPair]) ∧
    ofEnvironment scattered = ofEnvironment [endpointPair, sizePair, flagPair] ∧
    DifferOnly .endpoint scattered [sizePair, flagPair] ∧ Flagged scattered ∧
    (∀ another, another ≠ .endpoint →
      (ofEnvironment scattered).1.field another =
        (ofEnvironment [sizePair, flagPair]).1.field another) ∧
    DifferOnly .batchSize scattered [flagPair, endpointPair] ∧
    (ofEnvironment scattered).1 = (ofEnvironment [flagPair, endpointPair]).1 := by
  obtain ⟨same, alone, unread⟩ := variables_apart
  have agree (setting : Variable) :
      scattered.Agree setting.name [endpointPair, sizePair, flagPair] :=
    Environment.agree_iff.mpr (by cases setting <;> rfl)
  have unlikeEndpoint : DifferOnly .endpoint scattered [sizePair, flagPair] := by
    intro another apart
    refine Environment.agree_iff.mpr ?_
    cases another <;> first | contradiction | rfl
  have unlikeSize : DifferOnly .batchSize scattered [flagPair, endpointPair] := by
    intro another apart
    refine Environment.agree_iff.mpr ?_
    cases another <;> first | contradiction | rfl
  have flag : Variable.remoteEnabled.Reads " No " := by
    simp only [Variable.Reads]
    decide
  have flagged : Flagged scattered :=
    ⟨" No ", ⟨[("TELEMETRY_BATCH_SIZE", "7")], [("HOME", "/root"), endpointPair, sizePair], rfl,
      by decide⟩, flag⟩
  have wordy : ¬Variable.batchSize.Reads "lots" := by
    simp only [Variable.Reads]
    rw [← Numeral.unsigned?_isSome_iff]
    decide
  obtain ⟨fields, remote, -⟩ := alone .endpoint scattered _ unlikeEndpoint
  refine ⟨agree, same _ _ agree, unlikeEndpoint, flagged, ?_, unlikeSize, ?_⟩
  · intro another apart
    by_cases flag : another = .remoteEnabled
    · subst flag
      exact remote rfl flagged
    · exact fields another apart fun both => flag both.2
  · refine unread .batchSize scattered _ unlikeSize "lots" ?_ wordy ?_
    · exact ⟨[("TELEMETRY_BATCH_SIZE", "7"), flagPair, ("HOME", "/root"), endpointPair], [], rfl,
        by simp⟩
    · intro value given
      have none : Environment.value? [flagPair, endpointPair] Variable.batchSize.name = none := rfl
      rw [← Environment.value?_eq_some_iff, none] at given
      contradiction

end Settings

end FeedMonitor
