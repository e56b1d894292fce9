import FeedMonitor.Proofs.Json.Shape
import FeedMonitor.Proofs.Time.Instant
import FeedMonitor.Record.Reading

/-!
A written record is read as that record, in whatever order its members stand.

Each member is the value of the slot of its name, so the draft of some names holds what the record
has in their slots and nothing else. The draft of all names of a record is the record.
-/

namespace FeedMonitor.Record

/-- What the written form keeps: an instant of the calendar, and data without reals that nest so
deep at most that a batch can carry them. -/
structure Portable (record : Record) : Prop where
  time : record.time.Valid
  data : ∀ members, record.data = some members →
    Json.Plain (Json.nestingLimit - 3) (.object members)

/-- The members are those of the record, each once. -/
structure Describes (record : Record) (members : List (String × Json)) : Prop where
  distinct : (members.map Prod.fst).Nodup
  sound : ∀ name value, (name, value) ∈ members →
    ∃ slot, slot.name = name ∧ record.slot? slot = some value
  complete : ∀ slot value, record.slot? slot = some value → slot.name ∈ members.map Prod.fst

theorem find?_name (slot : Slot) : shape.find? slot.name = some slot := by
  cases slot with
  | text field => cases field <;> rfl
  | _ => rfl

theorem Slot.name_inj {slot other : Slot} : slot.name = other.name ↔ slot = other := by
  refine ⟨fun same => ?_, congrArg name⟩
  have found := find?_name slot
  rw [same, find?_name] at found
  exact (Option.some.inj found).symm

namespace Draft

variable {record : Record}

/-- What has been read of a record with the members of these names. -/
def noted (record : Record) (names : List String) : Draft where
  severity := if Slot.severity.name ∈ names then some record.severity else none
  message := if Slot.message.name ∈ names then some record.message else none
  time := if Slot.time.name ∈ names then some record.time else none
  text? := fun field => if (Slot.text field).name ∈ names then some (record.text? field) else none
  data := if Slot.data.name ∈ names then some record.data else none

theorem noted_nil (record : Record) : noted record [] = empty := by
  simp [noted, empty]

theorem filled_noted (record : Record) (names : List String) (slot : Slot) :
    (noted record names).filled slot = decide (slot.name ∈ names) := by
  cases slot <;> simp only [filled, noted] <;> split <;> simp_all

theorem fill_noted (portable : record.Portable) {slot : Slot} {value : Json}
    (has : record.slot? slot = some value) (names : List String) {rest : List Char}
    (ended : Json.Ended rest) :
    (noted record names).fill slot (value.write ++ rest) =
      .ok (noted record (slot.name :: names), rest) := by
  cases slot with
  | severity =>
    cases has
    have read := Json.expectName_write (Severity.ofName?_name record.severity) rest
    simp only [fill, read, bind, Except.bind]
    simp [noted, Slot.name_inj, pure, Except.pure]
  | message =>
    cases has
    simp only [fill, Json.expectString_write, bind, Except.bind]
    simp [noted, Slot.name_inj, pure, Except.pure]
  | time =>
    cases has
    have time := portable.time.ofLenient?_text
    simp only [fill, Json.expectString_write, time, bind, Except.bind]
    simp [noted, Slot.name_inj, pure, Except.pure]
  | text field =>
    obtain ⟨text, present, rfl⟩ := Option.map_eq_some_iff.mp has
    have read : Json.expectOptional Json.expectString (Json.write (.string text) ++ rest) =
        .ok (some text, rest) := by
      have plain := Json.expectString_write text rest
      rw [Json.write_string_append] at plain ⊢
      exact Json.expectOptional_of_opens (by decide) (by decide) plain
    have texts (other : Field) : (if other = field then some (some text) else
        if (Slot.text other).name ∈ names then some (record.text? other) else none) =
        if (Slot.text other).name ∈ (Slot.text field).name :: names then some (record.text? other)
          else none := by
      by_cases same : other = field
      · simp [same, present]
      · simp [same, Slot.name_inj]
    simp only [fill, read, bind, Except.bind]
    simp [noted, Slot.name_inj, pure, Except.pure, texts]
  | data =>
    obtain ⟨members, present, rfl⟩ := Option.map_eq_some_iff.mp has
    have read : Json.expectOptional Json.expectObject (Json.write (.object members) ++ rest) =
        .ok (some members, rest) := by
      have plain := Json.expectObject_write
        ((portable.data members present).mono (by decide)) ended
      exact Json.expectOptional_of_opens (by decide) (by decide) plain
    simp only [fill, read, bind, Except.bind]
    simp [noted, Slot.name_inj, pure, Except.pure, present]

variable {names : List String} (all : ∀ slot value, record.slot? slot = some value → slot.name ∈ names)

include all

theorem isComplete_noted : shape.isComplete (noted record names) = true := by
  refine List.all_eq_true.mpr fun slot _ => ?_
  change (isOptional slot || (noted record names).filled slot) = true
  rw [filled_noted]
  -- What every record has is noted, and the rest is optional.
  cases slot with
  | severity => simp [all .severity _ rfl]
  | message => simp [all .message _ rfl]
  | time => simp [all .time _ rfl]
  | text field => rfl
  | data => rfl

theorem toRecord?_noted : (noted record names).toRecord? = some record := by
  have texts (field : Field) :
      ((noted record names).text? field).join = record.text? field := by
    cases present : record.text? field with
    | none =>
      simp only [noted, present]
      split <;> rfl
    | some text =>
      have name := all (.text field) (.string text) (by simp [slot?, present])
      simp [noted, name, present]
  have data : (noted record names).data.join = record.data := by
    cases present : record.data with
    | none =>
      simp only [noted, present]
      split <;> rfl
    | some members =>
      have name := all .data (.object members) (by simp [slot?, present])
      simp [noted, name, present]
  have severity : (noted record names).severity = some record.severity :=
    if_pos (all .severity _ rfl)
  have message : (noted record names).message = some record.message := if_pos (all .message _ rfl)
  have time : (noted record names).time = some record.time := if_pos (all .time _ rfl)
  simp only [toRecord?, texts, data, severity, message, time]
  rfl

end Draft

variable {record : Record} {members : List (String × Json)}

theorem Describes.notes (describes : record.Describes members) (portable : record.Portable) :
    shape.Notes (Draft.noted record) members := by
  intro name value member names new rest ended
  obtain ⟨slot, rfl, has⟩ := describes.sound name value member
  have empty : shape.filled (Draft.noted record names) slot = false := by
    change (Draft.noted record names).filled slot = false
    rw [Draft.filled_noted]
    exact decide_eq_false new
  have filled : shape.fill (Draft.noted record names) slot (value.write ++ rest) =
      .ok (Draft.noted record (slot.name :: names), rest) :=
    Draft.fill_noted portable has names ended
  rw [Json.Shape.readMember, find?_name]
  simp only [empty, Json.readColon_cons, bind, Except.bind]
  exact filled

/-- The members of a record, in any order, are read as the record. -/
theorem Describes.parse (describes : record.Describes members) (portable : record.Portable) :
    Record.parse (String.ofList (Json.writeFields members)) = .ok record := by
  have all : ∀ slot value, record.slot? slot = some value →
      slot.name ∈ (members.map Prod.fst).reverse := fun slot value has =>
    List.mem_reverse.mpr (describes.complete slot value has)
  have some : members ≠ [] := by
    rintro rfl
    have name := describes.complete .severity _ rfl
    contradiction
  have read := Json.Shape.parse_writeFields some (describes.notes portable) describes.distinct
    (Draft.isComplete_noted all)
  rw [Draft.noted_nil] at read
  simp only [Record.parse, read, bind, Except.bind, Draft.toRecord?_noted all]
  rfl

end FeedMonitor.Record
