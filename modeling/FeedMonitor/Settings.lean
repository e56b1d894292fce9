import FeedMonitor.Delivery.Overflow
import FeedMonitor.Journal
import FeedMonitor.Settings.Environment

/-!
Settings of the telemetry side and the variables that give them.

Each variable stands for one setting. A setting whose variable is missing or cannot be read has its
default; records are sent to a collector by default if there is an endpoint.
-/

namespace FeedMonitor

structure Settings where
  /-- How long a repetition counts as one. -/
  dedupWindow : Span
  /-- How many repetitions let one through. -/
  dedupThreshold : Nat
  dedupMostKeys : Nat
  /-- The base URL of the collector. -/
  endpoint : Option String
  remoteEnabled : Bool
  apiKey : Option String
  batchSize : Nat
  /-- From the first record that waits to the next batch. -/
  flushInterval : Span
  queueCapacity : Nat
  overflow : Delivery.Overflow
  environment : String
  appVersion : String
  source : String
  /-- Where the user id is kept; nowhere if absent. -/
  identityFile : Option String
  requestTimeout : Span
  logLevel : String
deriving DecidableEq

namespace Settings

instance : Inhabited Settings where
  default :=
    { dedupWindow := .ofSeconds 5
      dedupThreshold := 5
      dedupMostKeys := 1024
      endpoint := none
      remoteEnabled := false
      apiKey := none
      batchSize := 20
      flushInterval := .ofSeconds 5
      queueCapacity := 500
      overflow := default
      environment := "development"
      appVersion := "0.1.0"
      source := "frontend"
      identityFile := none
      requestTimeout := .ofSeconds 5
      logLevel := "info" }

inductive Variable
  | dedupWindow
  | dedupThreshold
  | dedupMostKeys
  | endpoint
  | remoteEnabled
  | apiKey
  | batchSize
  | flushInterval
  | queueCapacity
  | overflow
  | environment
  | appVersion
  | source
  | identityFile
  | requestTimeout
  | logLevel
deriving DecidableEq

def Variable.all : List Variable :=
  [dedupWindow, dedupThreshold, dedupMostKeys, endpoint, remoteEnabled, apiKey, batchSize,
    flushInterval, queueCapacity, overflow, environment, appVersion, source, identityFile,
    requestTimeout, logLevel]

def Variable.name : Variable → String
  | dedupWindow => "TELEMETRY_DEDUP_WINDOW_MS"
  | dedupThreshold => "TELEMETRY_DEDUP_THRESHOLD"
  | dedupMostKeys => "TELEMETRY_DEDUP_MAX_KEYS"
  | endpoint => "TELEMETRY_ENDPOINT"
  | remoteEnabled => "TELEMETRY_REMOTE_ENABLED"
  | apiKey => "TELEMETRY_API_KEY"
  | batchSize => "TELEMETRY_BATCH_SIZE"
  | flushInterval => "TELEMETRY_FLUSH_INTERVAL_MS"
  | queueCapacity => "TELEMETRY_QUEUE_CAPACITY"
  | overflow => "TELEMETRY_OVERFLOW_POLICY"
  | environment => "TELEMETRY_ENVIRONMENT"
  | appVersion => "TELEMETRY_APP_VERSION"
  | source => "TELEMETRY_SOURCE"
  | identityFile => "TELEMETRY_IDENTITY_FILE"
  | requestTimeout => "TELEMETRY_REQUEST_TIMEOUT_MS"
  | logLevel => "TELEMETRY_LOG_LEVEL"

/-- Thresholds have thirty-two bits. -/
def mostThreshold : Nat := 0xffffffff

/-- The policy that a value names. Another value is reported and means the default. -/
def overflowOf : Option String → Delivery.Overflow × Journal
  | none => (default, [])
  | some value =>
    match Delivery.Overflow.parse value with
    | .ok policy => (policy, [])
    | .error _ =>
      (default, [Journal.telemetry .warn s!"Unknown overflow policy '{value}', using default"])

/-- The settings that the values of the variables give. -/
def ofValues (value? : Variable → Option String) : Settings × Journal :=
  let usual : Settings := default
  let endpoint := textOf? (value? .endpoint)
  let (overflow, journal) := overflowOf (value? .overflow)
  ({ dedupWindow := (millisOf? (value? .dedupWindow)).getD usual.dedupWindow
     dedupThreshold :=
      (numberOf? mostThreshold (value? .dedupThreshold)).getD usual.dedupThreshold
     dedupMostKeys := (numberOf? mostCount (value? .dedupMostKeys)).getD usual.dedupMostKeys
     endpoint
     remoteEnabled := (flagOf? (value? .remoteEnabled)).getD endpoint.isSome
     apiKey := textOf? (value? .apiKey)
     batchSize := (numberOf? mostCount (value? .batchSize)).getD usual.batchSize
     flushInterval := (millisOf? (value? .flushInterval)).getD usual.flushInterval
     queueCapacity := (numberOf? mostCount (value? .queueCapacity)).getD usual.queueCapacity
     overflow
     environment := (textOf? (value? .environment)).getD usual.environment
     appVersion := (textOf? (value? .appVersion)).getD usual.appVersion
     source := (textOf? (value? .source)).getD usual.source
     identityFile := textOf? (value? .identityFile)
     requestTimeout := (millisOf? (value? .requestTimeout)).getD usual.requestTimeout
     logLevel :=
      ((value? .logLevel).map fun value => Text.lower (Text.trim value)).getD usual.logLevel },
    journal)

def ofEnvironment (environment : Environment) : Settings × Journal :=
  ofValues fun setting => environment.value? setting.name

/-- The path under the endpoint that takes batches. -/
def batchPath : String := "/logs/batch"

/-- The text without slashes at its end. -/
def withoutSlashes (text : String) : String :=
  String.ofList (text.toList.reverse.dropWhile (· == '/')).reverse

/-- Where batches are posted. -/
def batchUrl? (settings : Settings) : Option String :=
  settings.endpoint.map fun endpoint => withoutSlashes endpoint ++ batchPath

theorem Variable.name_injective {a b : Variable} (same : a.name = b.name) : a = b := by
  cases a <;> cases b <;> simp_all [Variable.name]

end Settings

end FeedMonitor
