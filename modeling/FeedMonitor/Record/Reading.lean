import FeedMonitor.Json.Shape
import FeedMonitor.Record
import FeedMonitor.Time.Instant.Reading

/-!
Reading written records back.
-/

namespace FeedMonitor.Record

/-- What has been read of a record. A text that was null is there and is nothing. -/
structure Draft where
  severity : Option Severity
  message : Option String
  time : Option Instant
  text? : Field → Option (Option String)
  data : Option (Option Json.Members)

namespace Draft

def empty : Draft := ⟨none, none, none, fun _ => none, none⟩

def filled (draft : Draft) : Slot → Bool
  | .severity => draft.severity.isSome
  | .message => draft.message.isSome
  | .time => draft.time.isSome
  | .text field => (draft.text? field).isSome
  | .data => draft.data.isSome

def fill (draft : Draft) (slot : Slot) (cs : List Char) :
    Except Json.Fault (Draft × List Char) := do
  match slot with
  | .severity =>
    let (severity, rest) ← Json.expectName Severity.ofName? cs
    return ({ draft with severity := some severity }, rest)
  | .message =>
    let (message, rest) ← Json.expectString cs
    return ({ draft with message := some message }, rest)
  | .time =>
    let (text, rest) ← Json.expectString cs
    match Instant.ofLenient? text with
    | some time => return ({ draft with time := some time }, rest)
    | none => throw .mismatched
  | .text field =>
    let (text, rest) ← Json.expectOptional Json.expectString cs
    return ({ draft with
      text? := fun other => if other = field then some text else draft.text? other }, rest)
  | .data =>
    let (data, rest) ← Json.expectOptional Json.expectObject cs
    return ({ draft with data := some data }, rest)

def toRecord? (draft : Draft) : Option Record := do
  return ⟨← draft.severity, ← draft.message, ← draft.time, fun field => (draft.text? field).join,
    draft.data.join⟩

end Draft

def isOptional : Slot → Bool
  | .severity | .message | .time => false
  | .text _ | .data => true

def shape : Json.Shape Slot Draft where
  slots := slots
  name := Slot.name
  optional := isOptional
  filled := Draft.filled
  fill := Draft.fill

/-- The record that a text writes. -/
def parse (text : String) : Except Json.Fault Record := do
  match (← shape.parse Draft.empty text).toRecord? with
  | some record => return record
  | none => throw .mismatched

end FeedMonitor.Record
