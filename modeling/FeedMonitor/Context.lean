import FeedMonitor.Context.Value
import FeedMonitor.Journal

/-!
The context of an emission: an event tag and named values, and the snapshot of them that is sent.

A name is held once, in the place where it was first given, with the value given last. A text under
the name `event` is the event tag and never a value.
-/

namespace FeedMonitor

structure Context where
  event : Option String
  entries : List (String × Context.Value)

namespace Context

def empty : Context := ⟨none, []⟩

instance : Inhabited Context := ⟨empty⟩

/-- The name of the event tag. -/
def eventName : String := "event"

def withEvent (context : Context) (event : String) : Context := { context with event := some event }

/-- Replaces the value of a name in its place, or adds the name at the end. -/
def putEntry (name : String) (value : Value) : List (String × Value) → List (String × Value)
  | [] => [(name, value)]
  | (other, held) :: rest =>
    if other = name then (name, value) :: rest else (other, held) :: putEntry name value rest

def insert (context : Context) (name : String) (value : Value) : Context :=
  match name == eventName, value with
  | true, .primitive (.string event) => context.withEvent event
  | _, value => { context with entries := putEntry name value context.entries }

/-- Adds a value with parts, whatever its kind. -/
def withValue (context : Context) (name : String) (value : Structured) : Context :=
  context.insert name (.structured value)

/-- Adds an error of some kind, by its message and those of its causes. -/
def withError (context : Context) (name kind message : String) (causes : List String) : Context :=
  context.insert name (.error (.capture kind message causes))

def get? (context : Context) (name : String) : Option Value := context.entries.lookup name

def size (context : Context) : Nat := context.entries.length

/-- The JSON of a value, and the line that reports why its description stands in for it. -/
def Value.snapshot (name : String) : Value → Json × Journal
  | .primitive value => (value, [])
  | .error captured => (.object captured.toMembers, [])
  | .structured value =>
    match value.rendering with
    | .ok json => (json, [])
    | .error cause =>
      (.string value.description,
        [Journal.telemetry .debug s!"Context value '{name}' is not serializable: {cause}"])

/-- What is sent of a context, nothing if it has no entries. -/
def snapshot (context : Context) : Option Json.Members × Journal :=
  let parts := context.entries.map fun (name, value) => (name, value.snapshot name)
  (if parts.isEmpty then none
    else some (Json.Members.ofList (parts.map fun (name, json, _) => (name, json))),
    parts.flatMap fun (_, _, journal) => journal)

theorem lookup_putEntry (name : String) (value : Value) (entries : List (String × Value))
    (other : String) :
    (putEntry name value entries).lookup other =
      if other = name then some value else entries.lookup other := by
  induction entries with
  | nil => grind [putEntry]
  | cons first rest ih => grind [putEntry]

theorem get?_insert (context : Context) {name : String} (plain : name ≠ eventName)
    (value : Value) (other : String) :
    (context.insert name value).get? other =
      if other = name then some value else context.get? other := by
  unfold insert
  split
  · rename_i tag
    exact absurd (beq_iff_eq.mp tag) plain
  · exact lookup_putEntry ..

end Context

end FeedMonitor
