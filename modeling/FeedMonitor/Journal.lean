import FeedMonitor.Record.Severity
import FeedMonitor.Text.Quoted

/-!
What a program writes to its local log.
-/

namespace FeedMonitor

namespace Journal

/-- The part of the program that a line is from. -/
inductive Source
  | telemetry
  | feed
  | agent
deriving DecidableEq

/-- The name by which the lines of a source are chosen. -/
def Source.name : Source → String
  | telemetry => "telemetry"
  | feed => "stream"
  | agent => "telemetry_agent"

/-- What the lines of a source begin with. -/
def Source.mark : Source → String
  | telemetry => "TELEMETRY | "
  | feed => "STREAM | "
  | agent => ""

inductive Entry
  | line (source : Source) (severity : Severity) (text : String)
  /-- The local copy of a record: its message, its event or nothing, its data as JSON or nothing. -/
  | echo (severity : Severity) (message event data : String)
deriving DecidableEq

namespace Entry

def severity : Entry → Severity
  | line _ severity _ => severity
  | echo severity _ _ _ => severity

def source : Entry → Source
  | line source _ _ => source
  | echo _ _ _ _ => .telemetry

/-- An entry as one line of a log. -/
def text : Entry → String
  | line source severity text => severity.label ++ " " ++ source.mark ++ text
  | echo severity message event data =>
    severity.label ++ " " ++ message ++ " event=" ++ Text.quoted event ++ " data=" ++ data

end Entry

end Journal

abbrev Journal := List Journal.Entry

namespace Journal

/-- A line about telemetry. -/
def telemetry (severity : Severity) (text : String) : Entry := .line .telemetry severity text

/-- A line about the price feed. -/
def feed (severity : Severity) (text : String) : Entry := .line .feed severity text

end Journal

end FeedMonitor
