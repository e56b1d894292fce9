import FeedMonitor.Number.Binary64

/-!
JSON values.

The members of an object are kept in the order of their names, each name once, so two objects with
the same members are the same value and every traversal has one order.
-/

namespace FeedMonitor

/-- A number is a whole one, of 64 bits, or a double. -/
inductive Json.Number
  | whole (value : Int)
  | real (value : Binary64)
deriving DecidableEq

inductive Json
  | null
  | bool (value : Bool)
  | number (value : Json.Number)
  | string (value : String)
  | array (items : List Json)
  | object (members : List (String × Json))
deriving Inhabited

namespace Json

abbrev Members := List (String × Json)

/-- Sets the member `name`, in its place in the order of names. -/
def Members.insert (name : String) (value : Json) : Members → Members
  | [] => [(name, value)]
  | (other, held) :: rest =>
    if name < other then (name, value) :: (other, held) :: rest
    else if name = other then (name, value) :: rest
    else (other, held) :: insert name value rest

def Members.get? (name : String) (members : Members) : Option Json := members.lookup name

/-- The last of several members with one name is kept. -/
def Members.ofList (members : List (String × Json)) : Members :=
  members.foldl (fun held (name, value) => Members.insert name value held) []

def ofNat (n : Nat) : Json := .number (.whole n)

def asString? : Json → Option String
  | .string s => some s
  | _ => none

def asObject? : Json → Option Members
  | .object members => some members
  | _ => none

/-- The double nearest to a number. -/
def Number.toReal? : Number → Option Binary64
  | .whole n => Binary64.ofInt? n
  | .real x => some x

theorem Members.get?_insert (name : String) (value : Json) (members : Members) :
    (members.insert name value).get? name = some value := by
  induction members with
  | nil => simp [insert, get?]
  | cons member rest ih =>
    obtain ⟨other, held⟩ := member
    simp only [insert]
    split
    · simp [get?]
    · split
      · simp [get?]
      · rename_i differ
        have h : (name == other) = false := by simpa using differ
        simpa [get?, List.lookup_cons, h] using ih

theorem Members.get?_insert_of_ne {name other : String} (differ : other ≠ name) (value : Json)
    (members : Members) : (members.insert name value).get? other = members.get? other := by
  have h : (other == name) = false := by simpa using differ
  induction members with
  | nil => simp [insert, get?, List.lookup_cons, h]
  | cons member rest ih =>
    obtain ⟨first, held⟩ := member
    simp only [insert]
    split
    · simp [get?, List.lookup_cons, h]
    · split
      · rename_i same
        subst same
        simp [get?, List.lookup_cons, h]
      · simp only [get?, List.lookup_cons] at ih ⊢
        split <;> simp_all

end Json

end FeedMonitor
