import FeedMonitor.Json.Reader

/-!
Reading JSON into a known shape.

A shape lists slots in order. An object fills slots by their names, in any order and each once, and
skips other members; an array fills them in order. What is skipped is only held against the grammar:
its nesting, the size of its numbers and the halves of its surrogate pairs are not looked at.
-/

namespace FeedMonitor.Json

/-! ### Skipping -/

/-- The text after the closing quote. -/
def skipChars : List Char → Option (List Char)
  | [] => none
  | '"' :: rest => some rest
  | '\\' :: 'u' :: a :: b :: c :: d :: rest =>
    if (hexQuad? a b c d).isSome then skipChars rest else none
  | '\\' :: c :: rest => if (simpleEscape? c).isSome then skipChars rest else none
  | c :: rest => if c.toNat < 0x20 || c = '\\' then none else skipChars rest

def skipString (cs : List Char) : Except Fault (List Char) :=
  match skipChars cs with
  | some rest => .ok rest
  | none => .error .malformed

mutual

def skipValue (fuel : Nat) (cs : List Char) : Except Fault (List Char) :=
  match fuel with
  | 0 => .error .malformed
  | fuel + 1 =>
    match skipBlanks cs with
    | 'n' :: rest => readWord ['u', 'l', 'l'] rest
    | 't' :: rest => readWord ['r', 'u', 'e'] rest
    | 'f' :: rest => readWord ['a', 'l', 's', 'e'] rest
    | '"' :: rest => skipString rest
    | '[' :: rest =>
      match skipBlanks rest with
      | ']' :: rest => .ok rest
      | rest => skipItems fuel rest
    | '\x7b' :: rest =>
      match skipBlanks rest with
      | '\x7d' :: rest => .ok rest
      | rest => skipMembers fuel rest
    | '-' :: rest => (readNumberText true rest).map Prod.snd
    | rest => (readNumberText false rest).map Prod.snd

def skipItems (fuel : Nat) (cs : List Char) : Except Fault (List Char) :=
  match fuel with
  | 0 => .error .malformed
  | fuel + 1 => do
    match skipBlanks (← skipValue fuel cs) with
    | ',' :: rest => skipItems fuel rest
    | ']' :: rest => return rest
    | _ => throw .malformed

def skipMembers (fuel : Nat) (cs : List Char) : Except Fault (List Char) :=
  match fuel with
  | 0 => .error .malformed
  | fuel + 1 =>
    match skipBlanks cs with
    | '"' :: rest => do
      let rest ← readColon (← skipString rest)
      match skipBlanks (← skipValue fuel rest) with
      | ',' :: rest => skipMembers fuel rest
      | '\x7d' :: rest => return rest
      | _ => throw .malformed
    | _ => .error .malformed

end

/-! ### Values of one kind -/

/-- The fault of a value that is not of the kind asked for: a scalar is read to see that it is one. -/
def misfit (cs : List Char) : Fault :=
  let scalar : Except Fault Unit := match skipBlanks cs with
    | '[' :: _ | '\x7b' :: _ => .ok ()
    | _ => (readValue 1 0 cs).map fun _ => ()
  match scalar with
  | .ok _ => .mismatched
  | .error fault => fault

def expectString (cs : List Char) : Except Fault (String × List Char) :=
  match skipBlanks cs with
  | '"' :: rest => readString rest
  | _ => .error (misfit cs)

/-- Null stands for nothing. -/
def expectOptional {α : Type} (expect : List Char → Except Fault (α × List Char)) (cs : List Char) :
    Except Fault (Option α × List Char) :=
  match skipBlanks cs with
  | 'n' :: rest => do return (none, ← readWord ['u', 'l', 'l'] rest)
  | _ => do
    let (value, rest) ← expect cs
    return (some value, rest)

def expectNull (cs : List Char) : Except Fault (List Char) :=
  match skipBlanks cs with
  | 'n' :: rest => readWord ['u', 'l', 'l'] rest
  | _ => .error (misfit cs)

/-- An object, inside one level of nesting. -/
def expectObject (cs : List Char) : Except Fault (Members × List Char) :=
  match skipBlanks cs with
  | '\x7b' :: _ => do
    match ← readValue (readFuel cs) (nestingLimit - 1) cs with
    | (.object members, rest) => return (members, rest)
    | _ => throw .mismatched
  | _ => .error (misfit cs)

/-- One of several names, as a string or as an object whose one member has that name and is null. -/
def expectName {α : Type} (find : String → Option α) (cs : List Char) :
    Except Fault (α × List Char) := do
  let resolve (name : String) : Except Fault α :=
    match find name with
    | some value => .ok value
    | none => .error .mismatched
  match skipBlanks cs with
  | '"' :: rest =>
    let (name, rest) ← readString rest
    return (← resolve name, rest)
  | '\x7b' :: rest =>
    let (name, rest) ← expectString rest
    let value ← resolve name
    match skipBlanks (← expectNull (← readColon rest)) with
    | '\x7d' :: rest => return (value, rest)
    | _ => throw .malformed
  | _ => throw .malformed

/-! ### Shapes -/

/-- The slots of a shape and how each is read into a draft. -/
structure Shape (ι σ : Type) where
  slots : List ι
  name : ι → String
  optional : ι → Bool
  filled : σ → ι → Bool
  fill : σ → ι → List Char → Except Fault (σ × List Char)

namespace Shape

variable {ι σ : Type}

def find? (shape : Shape ι σ) (name : String) : Option ι :=
  shape.slots.find? fun slot => shape.name slot == name

/-- Reads the value of the member `name`. A slot is filled once. -/
def readMember (shape : Shape ι σ) (draft : σ) (name : String) (cs : List Char) :
    Except Fault (σ × List Char) :=
  match shape.find? name with
  | some slot => do
    if shape.filled draft slot then throw .mismatched
    shape.fill draft slot (← readColon cs)
  | none => do
    let rest ← readColon cs
    return (draft, ← skipValue (readFuel rest) rest)

/-- The members of an object, one at least, up to its closing brace. -/
def readMembers (shape : Shape ι σ) (fuel : Nat) (draft : σ) (cs : List Char) :
    Except Fault (σ × List Char) :=
  match fuel with
  | 0 => .error .malformed
  | fuel + 1 =>
    match skipBlanks cs with
    | '"' :: rest => do
      let (name, rest) ← readString rest
      let (draft, rest) ← shape.readMember draft name rest
      match skipBlanks rest with
      | ',' :: rest => shape.readMembers fuel draft rest
      | '\x7d' :: _ => return (draft, rest)
      | _ => throw .malformed
    | _ => .error .malformed

/-- The text of the next item of an array, if there is one. -/
def nextItem (first : Bool) (cs : List Char) : Except Fault (Option (List Char)) :=
  match skipBlanks cs with
  | ']' :: _ => .ok none
  | c :: rest =>
    if first then .ok (some (c :: rest))
    else if c = ',' then
      match skipBlanks rest with
      | [] | ']' :: _ => .error .malformed
      | rest => .ok (some rest)
    else .error .malformed
  | [] => .error .malformed

def readItems (shape : Shape ι σ) (first : Bool) (draft : σ) :
    List ι → List Char → Except Fault (σ × List Char)
  | [], cs => .ok (draft, cs)
  | slot :: slots, cs => do
    match ← nextItem first cs with
    | some rest =>
      let (draft, rest) ← shape.fill draft slot rest
      shape.readItems false draft slots rest
    | none => shape.readItems first draft slots cs

/-- Whether no slot is left empty that must not be. -/
def isComplete (shape : Shape ι σ) (draft : σ) : Bool :=
  shape.slots.all fun slot => shape.optional slot || shape.filled draft slot

/-- Passes a complete draft on, once the closing bracket is there. -/
def close (shape : Shape ι σ) (bracket : Char) (draft : σ) (cs : List Char) :
    Except Fault (σ × List Char) :=
  if shape.isComplete draft then
    match skipBlanks cs with
    | c :: rest => if c = bracket then .ok (draft, rest) else .error .malformed
    | [] => .error .malformed
  else .error .mismatched

def read (shape : Shape ι σ) (empty : σ) (cs : List Char) : Except Fault (σ × List Char) :=
  match skipBlanks cs with
  | '\x7b' :: rest => do
    let (draft, rest) ← match skipBlanks rest with
      | '\x7d' :: _ => Except.ok (empty, rest)
      | _ => shape.readMembers (readFuel rest) empty rest
    shape.close '\x7d' draft rest
  | '[' :: rest => do
    let (draft, rest) ← shape.readItems true empty shape.slots rest
    shape.close ']' draft rest
  | _ => .error (misfit cs)

/-- The draft that a whole text fills. -/
def parse (shape : Shape ι σ) (empty : σ) (text : String) : Except Fault σ :=
  readEnd (shape.read empty text.toList)

end Shape

end FeedMonitor.Json
