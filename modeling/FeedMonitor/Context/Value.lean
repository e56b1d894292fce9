import FeedMonitor.Json.Outline

/-!
Values that a caller attaches to what it logs.
-/

namespace FeedMonitor

/-- An error as it is sent: its kind, its message, and both with the messages of its causes. -/
structure ErrorSnapshot where
  name : String
  message : String
  stack : String
deriving DecidableEq

namespace ErrorSnapshot

/-- One line per cause. -/
def causeLines (causes : List String) : String :=
  causes.foldl (fun lines cause => lines ++ "\n    caused by: " ++ cause) ""

def capture (name message : String) (causes : List String) : ErrorSnapshot :=
  ⟨name, message, name ++ ": " ++ message ++ causeLines causes⟩

def toMembers (snapshot : ErrorSnapshot) : Json.Members :=
  Json.Members.ofList
    [("name", .string snapshot.name), ("message", .string snapshot.message),
      ("stack", .string snapshot.stack)]

def description (snapshot : ErrorSnapshot) : String :=
  "ErrorSnapshot \x7b name: " ++ Text.quoted snapshot.name ++ ", message: "
    ++ Text.quoted snapshot.message ++ ", stack: " ++ Text.quoted snapshot.stack ++ " \x7d"

end ErrorSnapshot

/-- A value with parts: its JSON, or why it has none, and a description to fall back on. -/
structure Structured where
  rendering : Except String Json
  description : String

def Structured.ofJson (value : Json) : Structured := ⟨.ok value, value.outline⟩

inductive Context.Value
  | primitive (value : Json)
  | error (snapshot : ErrorSnapshot)
  | structured (value : Structured)

namespace Context.Value

def ofString (s : String) : Value := .primitive (.string s)

def ofInt (n : Int) : Value := .primitive (.number (.whole n))

/-- A real; what is not a finite number is null. -/
def ofReal (x : Option Binary64) : Value :=
  .primitive (match x with
    | some x => .number (.real x)
    | none => .null)

/-- Arrays and objects are structured and scalars are primitive. -/
def ofJson : Json → Value
  | .array items => .structured (.ofJson (.array items))
  | .object members => .structured (.ofJson (.object members))
  | scalar => .primitive scalar

def description : Value → String
  | .primitive value => "Primitive(" ++ value.outline ++ ")"
  | .error snapshot => "Error(" ++ snapshot.description ++ ")"
  | .structured value => "Structured(" ++ Text.quoted value.description ++ ")"

end Context.Value

end FeedMonitor
