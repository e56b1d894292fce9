import FeedMonitor.Json.Writer
import FeedMonitor.Record.Field
import FeedMonitor.Record.Severity
import FeedMonitor.Time.Instant.Written

/-!
Records and the batches in which they travel.

A record is written as an object whose members stand in a fixed order, absent ones left out. A batch
is an object with the one member `entries`.
-/

namespace FeedMonitor

structure Record where
  severity : Severity
  message : String
  time : Instant
  text? : Record.Field → Option String
  data : Option Json.Members

namespace Record

def messageLimit : Nat := 512

/-- A record of what happened at `time`, with a message that fits. -/
def ofMessage (severity : Severity) (message : String) (time : Instant) : Record :=
  ⟨severity, Text.clip messageLimit (Text.trim message), time, fun _ => none, none⟩

/-- Sets a text as far as its field keeps it. -/
def withText (record : Record) (field : Field) (text : Option String) : Record :=
  { record with
    text? := fun other => if other = field then field.keep text else record.text? other }

def withTime (record : Record) (time : Instant) : Record :=
  { record with time }

def withData (record : Record) (data : Option Json.Members) : Record :=
  { record with data }

/-- The members of a written record. -/
inductive Slot
  | severity
  | message
  | time
  | text (field : Field)
  | data
deriving DecidableEq

/-- The order in which they are written. -/
def slots : List Slot :=
  [.severity, .message, .text .event, .time, .text .sessionId, .text .environment, .text .source,
    .text .appVersion, .text .userId, .text .correlationId, .text .requestId, .data]

def Slot.name : Slot → String
  | severity => "level"
  | message => "message"
  | time => "timestamp"
  | text field => field.name
  | data => "data"

/-- The value of a member, if the record has it. -/
def slot? (record : Record) : Slot → Option Json
  | .severity => some (.string record.severity.name)
  | .message => some (.string record.message)
  | .time => some (.string record.time.text)
  | .text field => (record.text? field).map .string
  | .data => record.data.map .object

def write (record : Record) : List Char :=
  Json.writeFields (slots.filterMap fun slot => (record.slot? slot).map fun value => (slot.name, value))

def text (record : Record) : String := String.ofList record.write

/-- Written items with commas between them. -/
def joinComma : List (List Char) → List Char
  | [] => []
  | [item] => item
  | item :: next :: rest => item ++ ',' :: joinComma (next :: rest)

/-- The body that carries a batch to the collector. Texts, times and JSON values can all be written, so
each batch has one. -/
def payload (batch : List Record) : String :=
  String.ofList ("\x7b\"entries\":[".toList ++ joinComma (batch.map write) ++ "]\x7d".toList)

theorem withText_same (record : Record) (field : Field) (text : Option String) :
    (record.withText field text).text? field = field.keep text := by
  simp [withText]

theorem withText_other {field other : Field} (differ : other ≠ field) (record : Record)
    (text : Option String) : (record.withText field text).text? other = record.text? other := by
  simp [withText, differ]

end Record

end FeedMonitor
