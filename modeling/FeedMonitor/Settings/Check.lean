import FeedMonitor.Failure
import FeedMonitor.Settings
import FeedMonitor.Web.Url

/-!
Which settings can be used. Of several faults the one that comes first here is reported.
-/

namespace FeedMonitor.Settings

/-- The most records that the collector takes in one batch. -/
def mostBatchSize : Nat := 100

inductive Fault
  | noThreshold
  | noKeys
  | noCapacity
  | batchSize (given : Nat)
  | noInterval
  | endpoint (text : String) (cause : Web.Fault)
  | endpointScheme (text : String)
  | noEndpoint
  | logLevel (text : String)
deriving DecidableEq

def logLevels : List String := ["trace", "debug", "info", "warn", "error"]

def Fault.reason : Fault → String
  | noThreshold => "dedup threshold must be greater than 0"
  | noKeys => "dedup key capacity must be greater than 0"
  | noCapacity => "queue capacity must be greater than 0"
  | batchSize given => s!"batch size must be between 1 and {mostBatchSize}, got {given}"
  | noInterval => "flush interval must be greater than 0"
  | endpoint text cause => s!"invalid endpoint '{text}': {cause.message}"
  | endpointScheme text => s!"endpoint '{text}' must use http or https"
  | noEndpoint => "remote delivery is enabled but no endpoint is configured"
  | logLevel text =>
    "Invalid log level '" ++ text ++ "'. Must be one of: " ++ String.intercalate ", " logLevels

/-- An endpoint is a URL of one of two schemes; without one there is no remote delivery. -/
def endpointFault? (settings : Settings) : Option Fault :=
  match settings.endpoint with
  | none => if settings.remoteEnabled then some .noEndpoint else none
  | some text =>
    match Web.Url.parse text with
    | .error cause => some (.endpoint text cause)
    | .ok url =>
      if ["http", "https"].contains url.scheme then none else some (.endpointScheme text)

def fault? (settings : Settings) : Option Fault :=
  if settings.dedupThreshold = 0 then some .noThreshold
  else if settings.dedupMostKeys = 0 then some .noKeys
  else if settings.queueCapacity = 0 then some .noCapacity
  else if settings.batchSize = 0 || mostBatchSize < settings.batchSize then
    some (.batchSize settings.batchSize)
  else if settings.flushInterval.isZero then some .noInterval
  else
    match settings.endpointFault? with
    | some fault => some fault
    | none =>
      if logLevels.contains settings.logLevel then none else some (.logLevel settings.logLevel)

def check (settings : Settings) : Except Failure Unit :=
  match settings.fault? with
  | some fault => .error (.invalidConfig fault.reason)
  | none => .ok ()

/-- The settings of an environment if they can be used. -/
def load (environment : Environment) : Except Failure Settings × Journal :=
  let (settings, journal) := ofEnvironment environment
  (settings.check.map fun _ => settings, journal)

/-- Settings without a fault. -/
structure Usable (settings : Settings) : Prop where
  threshold : 0 < settings.dedupThreshold
  keys : 0 < settings.dedupMostKeys
  capacity : 0 < settings.queueCapacity
  batchSize : 0 < settings.batchSize ∧ settings.batchSize ≤ mostBatchSize
  interval : settings.flushInterval.isZero = false
  endpoint : settings.endpointFault? = none
  logLevel : settings.logLevel ∈ logLevels

theorem usable_of_fault? {settings : Settings} (none : settings.fault? = none) :
    settings.Usable := by
  unfold fault? at none
  split at none
  · contradiction
  rename_i threshold
  split at none
  · contradiction
  rename_i keys
  split at none
  · contradiction
  rename_i capacity
  split at none
  · contradiction
  rename_i batchSize
  split at none
  · contradiction
  rename_i interval
  split at none
  · contradiction
  rename_i endpoint
  split at none
  · rename_i logLevel
    simp only [Bool.or_eq_true, decide_eq_true_eq, not_or] at batchSize
    exact ⟨by omega, by omega, by omega, by omega, by simpa using interval, endpoint,
      by simpa using logLevel⟩
  · contradiction

/-- What is loaded is what the environment gives, without a fault. -/
theorem load_eq_ok {environment : Environment} {settings : Settings} {journal : Journal}
    (loaded : load environment = (.ok settings, journal)) :
    ofEnvironment environment = (settings, journal) ∧ settings.Usable := by
  rw [load] at loaded
  generalize ofEnvironment environment = given at loaded ⊢
  obtain ⟨same, rfl⟩ := Prod.mk.inj loaded
  cases fault : given.1.fault? with
  | some fault' =>
    rw [check, fault] at same
    contradiction
  | none =>
    rw [check, fault] at same
    obtain rfl := Except.ok.inj same
    exact ⟨rfl, usable_of_fault? fault⟩

theorem Usable.endpoint_of_remote {settings : Settings} (usable : settings.Usable)
    (remote : settings.remoteEnabled = true) : ∃ text, settings.endpoint = some text := by
  have sound := usable.endpoint
  unfold endpointFault? at sound
  cases given : settings.endpoint with
  | none => simp [given, remote] at sound
  | some text => exact ⟨text, rfl⟩

end FeedMonitor.Settings
