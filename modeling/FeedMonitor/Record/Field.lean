import FeedMonitor.Text.Blank

/-!
The optional texts of a record and how long each may be.
-/

namespace FeedMonitor

/-- The first `limit` characters. -/
def Text.clip (limit : Nat) (s : String) : String := String.ofList (s.toList.take limit)

inductive Record.Field
  | event
  | sessionId
  | environment
  | source
  | appVersion
  | userId
  | correlationId
  | requestId
deriving DecidableEq

namespace Record.Field

/-- The name on the wire. -/
def name : Field → String
  | event => "event"
  | sessionId => "sessionId"
  | environment => "environment"
  | source => "source"
  | appVersion => "appVersion"
  | userId => "userId"
  | correlationId => "correlationId"
  | requestId => "requestId"

/-- The most characters that the collector takes. -/
def limit : Field → Nat
  | event => 128
  | sessionId => 64
  | environment => 32
  | source => 32
  | appVersion => 64
  | userId => 64
  | correlationId => 128
  | requestId => 128

/-- What is kept of a text: nothing if it is blank, else its start without blanks at the ends. -/
def keep (field : Field) (text : Option String) : Option String :=
  (text.bind Text.nonBlank?).map (Text.clip field.limit)

theorem limit_pos (field : Field) : 0 < field.limit := by
  cases field <;> decide

end Record.Field

end FeedMonitor
