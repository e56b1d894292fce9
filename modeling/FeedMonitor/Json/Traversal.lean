import FeedMonitor.Json.Value

/-!
Walking through a JSON value.

A walk offers the objects and scalars of a value to a visitor, an object before its members, members
in the order of their names, items in theirs, down to a fixed depth, until one is accepted. Arrays
add a level and are never offered.
-/

namespace FeedMonitor.Json

inductive Node
  | object (members : Members)
  | scalar (value : Json)

/-- Sees one node, with a state of its own, and may accept it. -/
abbrev Visitor (σ β : Type) := σ → Node → Option β × σ

mutual

/-- Offers what lies at most `levels - 1` below `value` to `visit`. -/
def walkWithin {σ β : Type} (visit : Visitor σ β) (levels : Nat) (state : σ) :
    Json → Option β × σ
  | .object members =>
    match levels with
    | 0 => (none, state)
    | levels + 1 =>
      match visit state (.object members) with
      | (some result, state) => (some result, state)
      | (none, state) => walkMembers visit levels state members
  | .array items =>
    match levels with
    | 0 => (none, state)
    | levels + 1 => walkItems visit levels state items
  | scalar =>
    match levels with
    | 0 => (none, state)
    | _ + 1 => visit state (.scalar scalar)

def walkItems {σ β : Type} (visit : Visitor σ β) (levels : Nat) (state : σ) :
    List Json → Option β × σ
  | [] => (none, state)
  | item :: rest =>
    match walkWithin visit levels state item with
    | (some result, state) => (some result, state)
    | (none, state) => walkItems visit levels state rest

def walkMembers {σ β : Type} (visit : Visitor σ β) (levels : Nat) (state : σ) :
    List (String × Json) → Option β × σ
  | [] => (none, state)
  | (_, value) :: rest =>
    match walkWithin visit levels state value with
    | (some result, state) => (some result, state)
    | (none, state) => walkMembers visit levels state rest

end

/-- The root is the first of the levels that are looked at. -/
def walkLevels : Nat := 33

def walk {σ β : Type} (visit : Visitor σ β) (state : σ) (value : Json) : Option β × σ :=
  walkWithin visit walkLevels state value

mutual

/-- The nodes of the first `levels` levels of a value, in the order of a walk. -/
def nodesWithin (levels : Nat) : Json → List Node
  | .object members =>
    match levels with
    | 0 => []
    | levels + 1 => .object members :: nodesOfMembers levels members
  | .array items =>
    match levels with
    | 0 => []
    | levels + 1 => nodesOfItems levels items
  | scalar =>
    match levels with
    | 0 => []
    | _ + 1 => [.scalar scalar]

def nodesOfItems (levels : Nat) : List Json → List Node
  | [] => []
  | item :: rest => nodesWithin levels item ++ nodesOfItems levels rest

def nodesOfMembers (levels : Nat) : List (String × Json) → List Node
  | [] => []
  | (_, value) :: rest => nodesWithin levels value ++ nodesOfMembers levels rest

end

/-- Offers the nodes of a list in turn until one is accepted. -/
def searchNodes {σ β : Type} (visit : Visitor σ β) (state : σ) : List Node → Option β × σ
  | [] => (none, state)
  | node :: rest =>
    match visit state node with
    | (some result, state) => (some result, state)
    | (none, state) => searchNodes visit state rest

theorem searchNodes_append {σ β : Type} (visit : Visitor σ β) (state : σ) (first second : List Node) :
    searchNodes visit state (first ++ second) =
      match searchNodes visit state first with
      | (some result, state) => (some result, state)
      | (none, state) => searchNodes visit state second := by
  induction first generalizing state with
  | nil => rfl
  | cons node rest ih =>
    simp only [List.cons_append, searchNodes]
    cases visit state node with
    | mk found next => cases found <;> simp [ih]

end FeedMonitor.Json
