/-!
What can go wrong, and how it is said.
-/

namespace FeedMonitor

/-- Failures of the telemetry side. None of them reaches a caller that logs something. -/
inductive Failure
  | invalidConfig (reason : String)
  | identity (cause : String)
  | serialization (cause : String)
  | transport (cause : String)
  | rejected (status : Nat)
  | serviceUnavailable (reason : String)
deriving DecidableEq

def Failure.message : Failure → String
  | invalidConfig reason => "Invalid configuration: " ++ reason
  | identity cause => "Failed to persist identity: " ++ cause
  | serialization cause => "Failed to serialize payload: " ++ cause
  | transport cause => "Transport error: " ++ cause
  | rejected status => "Collector rejected batch with status " ++ toString status
  | serviceUnavailable reason => "Delivery service unavailable: " ++ reason

/-- Failures of the price feed. All but the first end a session and lead to another attempt. -/
inductive Feed.Failure
  | invalidConfig (reason : String)
  | connect (cause : String)
  | send (cause : String)
  | closed (cause : String)
deriving DecidableEq

def Feed.Failure.message : Feed.Failure → String
  | invalidConfig reason => "Invalid configuration: " ++ reason
  | connect cause => "Failed to connect: " ++ cause
  | send cause => "Failed to send frame: " ++ cause
  | closed cause => "Connection closed: " ++ cause

end FeedMonitor
