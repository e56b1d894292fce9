import FeedMonitor.Feed.Quote

/-!
Values that may stand under one of several names.

A value is read from the first of its names under which it can be read. Quotes have another rule: the
first name under which something stands decides, and what stands there is read or is not.
-/

namespace FeedMonitor.Feed

/-- A finite number, or a text that is one. -/
inductive Denotes : Json → Binary64 → Prop
  | number {n : Json.Number} {x : Binary64} (nearest : n.toReal? = some x) : Denotes (.number n) x
  | text {text : String} {x : Binary64} (numeral : Numeral.real? (Text.trim text) = some x) :
    Denotes (.string text) x

/-- The values that count as absent. -/
inductive Hollow : Json → Prop
  | null : Hollow .null
  | untrue : Hollow (.bool false)
  | zero {n : Json.Number} {x : Binary64} (nearest : n.toReal? = some x) (zero : x.isZero = true) :
    Hollow (.number n)
  | text : Hollow (.string "")
  | array : Hollow (.array [])
  | object : Hollow (.object [])

/-- What stands under some names of an object. -/
def under (members : Json.Members) (names : List String) : List (Option Json) :=
  names.map members.get?

/-- `result` is read from the first of some values from which anything is read. -/
def FirstRead {α : Type} (read : Json → Option α) (values : List (Option Json)) (result : α) : Prop :=
  ∃ front value back, values = front ++ some value :: back ∧ read value = some result ∧
    ∀ other, some other ∈ front → read other = none

/-- `value` is the first of some values that is not hollow. -/
def Leads (values : List (Option Json)) (value : Json) : Prop :=
  ∃ front back, values = front ++ some value :: back ∧ ¬Hollow value ∧
    ∀ other, some other ∈ front → Hollow other

/-- `symbol` is the first text under a name of symbols that is not blank, in upper case. -/
def Names (members : Json.Members) (symbol : String) : Prop :=
  ∃ text, FirstRead (fun value => value.asString?.bind Text.nonBlank?) (under members symbolNames)
    text ∧ Text.upper text = symbol

theorem numberOf?_eq_some_iff {value : Json} {x : Binary64} :
    numberOf? value = some x ↔ Denotes value x := by
  constructor
  · intro read
    cases value with
    | number n => exact .number read
    | string text => exact .text read
    | null | bool _ | array _ | object _ => cases read
  · intro denotes
    cases denotes with
    | number nearest => exact nearest
    | text numeral => exact numeral

theorem priceOf?_eq_some_iff {value : Json} {price : Binary64} :
    priceOf? value = some price ↔ Denotes value price ∧ price.isPositive = true := by
  rw [priceOf?, Option.filter_eq_some_iff, numberOf?_eq_some_iff]

theorem not_isPresent_iff {value : Json} : isPresent value = false ↔ Hollow value := by
  constructor
  · intro absent
    cases value with
    | null => exact .null
    | bool value =>
      cases value with
      | false => exact .untrue
      | true => cases absent
    | number n =>
      cases nearest : n.toReal? with
      | none => simp [isPresent, nearest] at absent
      | some x =>
        have zero : x.isZero = true := by simpa [isPresent, nearest] using absent
        exact .zero nearest zero
    | string text =>
      have empty : text = "" := by simpa [isPresent] using absent
      exact empty ▸ .text
    | array items =>
      have empty : items = [] := by simpa [isPresent] using absent
      exact empty ▸ .array
    | object members =>
      have empty : members = [] := by simpa [isPresent] using absent
      exact empty ▸ .object
  · intro hollow
    cases hollow with
    | zero nearest zero => simp [isPresent, nearest, zero]
    | null | untrue | text | array | object => rfl

theorem isPresent_iff {value : Json} : isPresent value = true ↔ ¬Hollow value := by
  rw [← not_isPresent_iff, Bool.not_eq_false]

/-! ### The first name -/

section

variable {α : Type} {read : Json → Option α} {values : List (Option Json)} {value : Json} {result : α}

theorem firstRead_iff :
    FirstRead read values result ↔ (values.findSome? fun held => held.bind read) = some result := by
  rw [List.findSome?_eq_some_iff]
  constructor
  · rintro ⟨front, value, back, split, reads, unread⟩
    refine ⟨front, some value, back, split, reads, ?_⟩
    intro held member
    cases held with
    | none => rfl
    | some other => exact unread other member
  · rintro ⟨front, held, back, split, reads, unread⟩
    obtain ⟨value, rfl, reads⟩ := Option.bind_eq_some_iff.mp reads
    exact ⟨front, value, back, split, reads, fun other member => unread _ member⟩

theorem firstRead_under_iff {members : Json.Members} {names : List String} :
    FirstRead read (under members names) result ↔
      (names.findSome? fun name => (members.get? name).bind read) = some result := by
  rw [firstRead_iff, under, List.findSome?_map]
  rfl

theorem FirstRead.unique {other : α} (first : FirstRead read values result)
    (again : FirstRead read values other) : result = other := by
  rw [firstRead_iff] at first again
  exact Option.some.inj (first.symm.trans again)

theorem leads_iff : Leads values value ↔ FirstRead (Option.guard isPresent) values value := by
  constructor
  · rintro ⟨front, back, split, holds, hollow⟩
    refine ⟨front, value, back, split, ?_, ?_⟩
    · exact Option.guard_eq_some_iff.mpr ⟨rfl, isPresent_iff.mpr holds⟩
    · intro other member
      have absent := not_isPresent_iff.mpr (hollow other member)
      exact Option.guard_eq_none_iff.mpr absent
  · rintro ⟨front, other, back, split, kept, absent⟩
    obtain ⟨rfl, present⟩ := Option.guard_eq_some_iff.mp kept
    refine ⟨front, back, split, isPresent_iff.mp present, ?_⟩
    intro earlier member
    exact not_isPresent_iff.mp (Option.guard_eq_none_iff.mp (absent earlier member))

theorem Leads.unique {other : Json} (leads : Leads values value) (again : Leads values other) :
    value = other := (leads_iff.mp leads).unique (leads_iff.mp again)

theorem findSome?_filter_eq_some_iff :
    (values.findSome? fun held => held.filter isPresent) = some value ↔ Leads values value := by
  rw [leads_iff, firstRead_iff]
  simp only [Option.bind_guard]

theorem firstPresent?_eq (members : Json.Members) (names : List String) :
    firstPresent? members names =
      (under members names).findSome? fun held => held.filter isPresent := by
  rw [firstPresent?, under, List.findSome?_map]
  rfl

theorem firstPresent?_eq_some_iff {members : Json.Members} {names : List String} :
    firstPresent? members names = some value ↔ Leads (under members names) value := by
  rw [firstPresent?_eq, findSome?_filter_eq_some_iff]

/-- The two rules agree on values of which nothing is read if they are hollow. -/
theorem Leads.firstRead (leads : Leads values value) (reads : read value = some result)
    (unread : ∀ other, Hollow other → read other = none) : FirstRead read values result := by
  obtain ⟨front, back, split, -, hollow⟩ := leads
  exact ⟨front, value, back, split, reads, fun other member => unread other (hollow other member)⟩

end

theorem names_iff {members : Json.Members} {symbol : String} :
    Names members symbol ↔ symbolOf? members = some symbol := by
  simp only [Names, firstRead_under_iff, symbolOf?, Option.map_eq_some_iff, Option.bind_assoc]

theorem Names.unique {members : Json.Members} {symbol other : String}
    (names : Names members symbol) (again : Names members other) : symbol = other := by
  rw [names_iff] at names again
  exact Option.some.inj (names.symm.trans again)

end FeedMonitor.Feed
