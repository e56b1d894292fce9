import FeedMonitor.Json.Writer
import FeedMonitor.Text.Blank
import FeedMonitor.Text.Case

/-!
Sets of instrument symbols and the frame that subscribes to them.

A symbol is a text without blanks at its ends, in upper case. A set lists its symbols in increasing
order, each once, so equal sets are equal lists.
-/

namespace FeedMonitor

structure SymbolSet where
  names : List String
  increasing : names.Pairwise (· < ·)

namespace SymbolSet

def empty : SymbolSet := ⟨[], List.Pairwise.nil⟩

instance : Inhabited SymbolSet := ⟨empty⟩

instance : DecidableEq SymbolSet := fun a b =>
  if h : a.names = b.names then .isTrue (by cases a; cases b; simp_all)
  else .isFalse (by rintro rfl; exact h rfl)

def isEmpty (symbols : SymbolSet) : Bool := symbols.names.isEmpty

def size (symbols : SymbolSet) : Nat := symbols.names.length

def contains (symbols : SymbolSet) (name : String) : Bool := symbols.names.contains name

/-- Puts a name into its place in an increasing list. -/
def insertName (name : String) : List String → List String
  | [] => [name]
  | other :: rest =>
    if name < other then name :: other :: rest
    else if name = other then other :: rest
    else other :: insertName name rest

theorem mem_insertName {name x : String} {names : List String} :
    x ∈ insertName name names ↔ x = name ∨ x ∈ names := by
  induction names with
  | nil => simp [insertName]
  | cons other rest ih =>
    simp only [insertName]
    split
    · simp
    · split
      · rename_i same
        subst same
        simp
      · simp only [List.mem_cons, ih]
        grind

theorem increasing_insertName {name : String} {names : List String}
    (increasing : names.Pairwise (· < ·)) : (insertName name names).Pairwise (· < ·) := by
  induction names with
  | nil => simp [insertName]
  | cons other rest ih =>
    obtain ⟨above, restIncreasing⟩ := List.pairwise_cons.mp increasing
    simp only [insertName]
    split
    · rename_i below
      refine List.pairwise_cons.mpr ⟨?_, increasing⟩
      intro x member
      rcases List.mem_cons.mp member with rfl | member
      · exact below
      · exact String.lt_trans below (above x member)
    · split
      · exact increasing
      · rename_i notBelow differ
        refine List.pairwise_cons.mpr ⟨?_, ih restIncreasing⟩
        intro x member
        rcases mem_insertName.mp member with rfl | member
        · have order : other ≤ x := String.not_lt.mp notBelow
          exact String.not_le.mp fun back => differ (String.le_antisymm back order)
        · exact above x member

def insert (symbols : SymbolSet) (name : String) : SymbolSet :=
  ⟨insertName name symbols.names, increasing_insertName symbols.increasing⟩

def union (symbols : SymbolSet) (names : List String) : SymbolSet :=
  names.foldl insert symbols

def ofNames (names : List String) : SymbolSet := empty.union names

theorem mem_insert {symbols : SymbolSet} {name x : String} :
    x ∈ (symbols.insert name).names ↔ x = name ∨ x ∈ symbols.names := mem_insertName

theorem mem_union (symbols : SymbolSet) (names : List String) (x : String) :
    x ∈ (symbols.union names).names ↔ x ∈ names ∨ x ∈ symbols.names := by
  induction names generalizing symbols with
  | nil => simp [union]
  | cons name rest ih =>
    have h := ih (symbols.insert name)
    simp only [union, List.foldl_cons, List.mem_cons] at h ⊢
    rw [h, mem_insert]
    grind

/-- Upper case without blanks at the ends; blank texts name no symbol. -/
def normalize (texts : List String) : List String :=
  (texts.map fun text => Text.upper (Text.trim text)).filter fun name => !name.isEmpty

/-- The set of the symbols that some texts name. -/
def ofTexts (texts : List String) : SymbolSet := ofNames (normalize texts)

/-- The feed channel that carries quotes. -/
def tickerChannel : String := "v2/ticker"

/-- The frame that asks for the quotes of every symbol of the set, in order; there is none for the
empty set. -/
def subscribeFrame? (symbols : SymbolSet) : Option String :=
  if symbols.isEmpty then none
  else
    let channel : Json :=
      .object [("name", .string tickerChannel), ("symbols", .array (symbols.names.map .string))]
    some (String.ofList (Json.writeFields
      [("type", .string "subscribe"), ("payload", .object [("channels", .array [channel])])]))

end SymbolSet

end FeedMonitor
