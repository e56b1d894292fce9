import FeedMonitor.Text.Blank
import FeedMonitor.Text.Case
import FeedMonitor.Text.Choice

/-!
How serious a record is.
-/

namespace FeedMonitor

inductive Severity
  | debug
  | info
  | warn
  | error
deriving DecidableEq, Inhabited

namespace Severity

def name : Severity → String
  | debug => "debug"
  | info => "info"
  | warn => "warn"
  | error => "error"

/-- The name in capitals, as it stands at the head of a line of a log. -/
def label (severity : Severity) : String := Text.upper severity.name

/-- The place in the order from least to most serious. -/
def rank : Severity → Nat
  | debug => 0
  | info => 1
  | warn => 2
  | error => 3

/-- Warnings and errors are also shown locally. -/
def isEchoed : Severity → Bool
  | warn | error => true
  | debug | info => false

def words : List (String × Severity) :=
  [("debug", debug), ("info", info), ("warn", warn), ("warning", warn), ("error", error)]

/-- Reads a severity in any ASCII case, with blanks around it. -/
def parse (text : String) : Except Text.UnknownWord Severity :=
  Text.choose "log level" words (Text.asciiLower (Text.trim text))

def ofName? : String → Option Severity
  | "debug" => some debug
  | "info" => some info
  | "warn" => some warn
  | "error" => some error
  | _ => none

theorem ofName?_name (severity : Severity) : ofName? severity.name = some severity := by
  cases severity <;> rfl

theorem name_injective {a b : Severity} (same : a.name = b.name) : a = b := by
  have h := congrArg ofName? same
  simpa [ofName?_name] using h

end Severity

end FeedMonitor
