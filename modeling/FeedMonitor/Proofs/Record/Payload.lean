import FeedMonitor.Proofs.Record.Reading

/-!
The body of a batch is read as an object with the one member `entries`, and each entry is read as
the record at its place, with the time that is shown of it. A leap second within a minute is shown as
the second that comes next, and all other times are shown as they are.
-/

namespace FeedMonitor.Record

/-- The members that are written for a record, in their order. -/
def fields (record : Record) : List (String × Json) :=
  slots.filterMap fun slot => (record.slot? slot).map fun value => (slot.name, value)

variable {record : Record}

theorem mem_fields {name : String} {value : Json} :
    (name, value) ∈ record.fields ↔ ∃ slot, slot.name = name ∧ record.slot? slot = some value := by
  have listed (slot : Slot) : slot ∈ slots := by
    cases slot with
    | text field => cases field <;> decide
    | _ => decide
  simp only [fields, List.mem_filterMap, Option.map_eq_some_iff, Prod.mk.injEq]
  constructor
  · rintro ⟨slot, -, _, has, rfl, rfl⟩
    exact ⟨slot, rfl, has⟩
  · rintro ⟨slot, rfl, has⟩
    exact ⟨slot, listed slot, value, has, rfl, rfl⟩

theorem describes_fields (record : Record) : record.Describes record.fields where
  distinct := by
    have slots_distinct : slots.Pairwise (· ≠ ·) := by decide
    refine List.pairwise_map.mpr (List.pairwise_filterMap.mpr (slots_distinct.imp ?_))
    rintro slot other differ member has member' has' same
    obtain ⟨_, _, rfl⟩ := Option.map_eq_some_iff.mp has
    obtain ⟨_, _, rfl⟩ := Option.map_eq_some_iff.mp has'
    exact differ (Slot.name_inj.mp same)
  sound := fun name value member => mem_fields.mp member
  complete := fun slot value has =>
    List.mem_map.mpr ⟨(slot.name, value), mem_fields.mpr ⟨slot, rfl, has⟩, rfl⟩

theorem Describes.perm {members others : List (String × Json)} (describes : record.Describes members)
    (perm : others.Perm members) : record.Describes others where
  distinct := (perm.map _).nodup_iff.mpr describes.distinct
  sound := fun name value member => describes.sound name value (perm.mem_iff.mp member)
  complete := fun slot value has =>
    (perm.map _).mem_iff.mpr (describes.complete slot value has)

/-- The entry that is read where the record is written. -/
def entry (record : Record) : Json := .object (Json.Members.ofList record.fields)

theorem Portable.parse_entry (portable : record.Portable) :
    Record.parse record.entry.render = .ok record := by
  have describes := record.describes_fields
  have sorted := describes.perm (Json.Members.perm_ofList describes.distinct)
  have text : record.entry.render =
      String.ofList (Json.writeFields (Json.Members.ofList record.fields)) := by
    simp only [entry, Json.render, Json.write, Json.writeFields]
  rw [text]
  exact sorted.parse portable

theorem Portable.parse_text (portable : record.Portable) : Record.parse record.text = .ok record :=
  record.describes_fields.parse portable

theorem Portable.plain (portable : record.Portable) {slot : Slot} {value : Json}
    (has : record.slot? slot = some value) : Json.Plain (Json.nestingLimit - 3) value := by
  cases slot with
  | data =>
    obtain ⟨members, present, rfl⟩ := Option.map_eq_some_iff.mp has
    exact portable.data members present
  | text field =>
    obtain ⟨text, _, rfl⟩ := Option.map_eq_some_iff.mp has
    exact .string text
  | severity | message | time =>
    cases has
    exact .string _

theorem Portable.reads (portable : record.Portable) {depth : Nat}
    (deep : Json.nestingLimit - 3 ≤ depth) : Json.Reads (depth + 1) record.write record.entry := by
  refine Json.reads_writeFields fun member found => ?_
  obtain ⟨slot, _, has⟩ := mem_fields.mp found
  exact ((portable.plain has).mono deep).reads

theorem reads_joinComma {records : List Record} (some : records ≠ [])
    (portable : ∀ record ∈ records, record.Portable) :
    Json.ReadsItems (Json.nestingLimit - 2) (joinComma (records.map write)) (records.map entry) := by
  induction records with
  | nil => contradiction
  | cons record rest ih =>
    have first := (portable record List.mem_cons_self).reads (Nat.le_refl _)
    cases rest with
    | nil => exact .one first
    | cons next rest =>
      have others := ih (List.cons_ne_nil _ _) fun record member =>
        portable record (List.mem_cons_of_mem _ member)
      exact .cons first others

theorem payload_eq (records : List Record) :
    payload records = String.ofList ('\x7b' :: (Json.writeString "entries" ++
      ':' :: ('[' :: (joinComma (records.map write) ++ [']'])) ++ ['\x7d'])) := by
  have opening : "\x7b\"entries\":[".toList = '\x7b' :: (Json.writeString "entries" ++ [':', '[']) := by
    decide
  have closing : "]\x7d".toList = [']', '\x7d'] := by decide
  unfold payload
  generalize joinComma (records.map write) = texts
  rw [opening, closing]
  simp only [List.append_assoc, List.cons_append, List.nil_append]

theorem parse_payload {records : List Record} (portable : ∀ record ∈ records, record.Portable) :
    Json.parse (payload records) = .ok (.object [("entries", .array (records.map entry))]) := by
  have entries : Json.Reads (Json.nestingLimit - 1) ('[' :: (joinComma (records.map write) ++ [']']))
      (.array (records.map entry)) := by
    cases records with
    | nil => exact Json.reads_nil
    | cons record rest => exact .array (reads_joinComma (List.cons_ne_nil _ _) portable)
  have member : Json.ReadsMembers (Json.nestingLimit - 1) (Json.writeString "entries" ++
      ':' :: ('[' :: (joinComma (records.map write) ++ [']'])))
      [("entries", .array (records.map entry))] := .one entries
  rw [Json.parse, payload_eq]
  exact Json.parseWithin_of_reads (.object member)

/-! ### Times as they are shown -/

/-- A record of any time, whose data, if there are some, have no reals and nest so deep at most that a
batch can carry them. -/
structure Held (record : Record) : Prop where
  time : record.time.Held
  data : ∀ members, record.data = some members →
    Json.Plain (Json.nestingLimit - 3) (.object members)

/-- The record with the time that is shown. -/
def settled (record : Record) : Record := { record with time := record.time.settled }

theorem Held.portable_settled (held : record.Held) : record.settled.Portable where
  time := held.time.valid_settled
  data := held.data

theorem settled_eq_self_iff :
    record.settled = record ↔
      (1000000000 ≤ record.time.nanos → record.time.seconds % 60 = 59) := by
  refine Iff.trans ⟨congrArg Record.time, fun same => ?_⟩ Instant.settled_eq_self_iff
  rw [settled, show record.time.settled = record.time from same]

theorem slot?_settled (record : Record) (slot : Slot) :
    record.settled.slot? slot = record.slot? slot := by
  cases slot with
  | time => exact congrArg (some ∘ Json.string) (Instant.text_settled record.time)
  | _ => rfl

theorem fields_settled (record : Record) : record.settled.fields = record.fields := by
  simp only [fields, slot?_settled]

theorem entry_settled (record : Record) : record.settled.entry = record.entry := by
  rw [entry, fields_settled, entry]

theorem write_settled (record : Record) : record.settled.write = record.write :=
  congrArg Json.writeFields record.fields_settled

theorem payload_settled (records : List Record) :
    payload (records.map settled) = payload records := by
  have texts : (records.map settled).map write = records.map write := by
    rw [List.map_map]
    exact List.map_congr_left fun record _ => record.write_settled
  rw [payload_eq, payload_eq, texts]

/-- What is read of an entry of a batch: the record with the time that is shown, from the entry and
from the text of the record alone. -/
structure Decodes (record : Record) (entry : Json) : Prop where
  entry_parse : Record.parse entry.render = .ok record.settled
  text_parse : Record.parse record.text = .ok record.settled
  text_entry : Json.parse record.text = .ok entry

theorem Held.decodes (held : record.Held) : record.Decodes record.entry where
  entry_parse := by
    rw [← entry_settled]
    exact held.portable_settled.parse_entry
  text_parse := by
    rw [text, ← write_settled]
    exact held.portable_settled.parse_text
  text_entry := by
    rw [text, ← write_settled, ← entry_settled]
    exact Json.parseWithin_of_reads (held.portable_settled.reads (by decide))

theorem parse_entries {records : List Record} (held : ∀ record ∈ records, record.Held) :
    (records.map entry).map (fun item => Record.parse item.render) =
      (records.map settled).map .ok := by
  rw [List.map_map, List.map_map]
  exact List.map_congr_left fun record member => (held record member).decodes.entry_parse

theorem parse_payload_of_held {records : List Record} (held : ∀ record ∈ records, record.Held) :
    Json.parse (payload records) = .ok (.object [("entries", .array (records.map entry))]) := by
  have portable : ∀ record ∈ records.map settled, record.Portable := by
    intro record member
    obtain ⟨original, found, rfl⟩ := List.mem_map.mp member
    exact (held original found).portable_settled
  have parsed := parse_payload portable
  rw [payload_settled, List.map_map] at parsed
  have same : entry ∘ settled = entry := funext entry_settled
  rwa [same] at parsed

/-- The entries of a batch are its records in their order, each with the time that is shown of it. So
what is shown of a batch is known from its body, and that is the batch itself unless one of its times
is in a leap second within a minute. -/
theorem payload_decodes {records : List Record} (held : ∀ record ∈ records, record.Held) :
    (∃ entries : List Json,
      Json.parse (payload records) = .ok (.object [("entries", .array entries)]) ∧
      entries.length = records.length ∧
      ∀ (i : Nat) (record : Record) (entry : Json), records[i]? = some record →
        entries[i]? = some entry → record.Decodes entry) ∧
    (∀ record ∈ records, record.settled = record ↔
      (1000000000 ≤ record.time.nanos → record.time.seconds % 60 = 59)) ∧
    ∀ others : List Record, (∀ record ∈ others, record.Held) →
      (payload others = payload records ↔ others.map settled = records.map settled) := by
  refine ⟨⟨records.map entry, parse_payload_of_held held, List.length_map _, ?_⟩,
    fun record _ => settled_eq_self_iff, ?_⟩
  · intro i record item found there
    rw [List.getElem?_map, found] at there
    cases there
    exact (held record (List.mem_of_getElem? found)).decodes
  · intro others held'
    constructor
    · intro same
      have parsed := parse_payload_of_held held'
      rw [same, parse_payload_of_held held] at parsed
      have entries : records.map entry = others.map entry := by
        simpa using parsed
      -- The same entries are read as the same records.
      have read := congrArg (List.map fun item : Json => Record.parse item.render) entries
      rw [parse_entries held, parse_entries held'] at read
      exact (List.map_injective_iff.mpr (fun _ _ => Except.ok.inj) read).symm
    · intro same
      rw [← payload_settled others, same, payload_settled]

/-- A leap second of the year 10000, characters that are escaped, and data of several kinds. -/
def inLeapSecond : Record where
  severity := .warn
  message := "a\"\\\n\x01"
  time := ⟨253402300859, 1500000000⟩
  text? := fun field => if field = .userId then some "é" else none
  data := some [("k", .array [.number (.whole (-5)), .object []]), ("l", .null)]

/-- An instant of the year before 0, and nothing that may be left out. -/
def beforeEra : Record where
  severity := .error
  message := ""
  time := ⟨-62198755200, 7⟩
  text? := fun _ => none
  data := none

theorem held_inLeapSecond : inLeapSecond.Held where
  time := ⟨by decide, by decide⟩
  data := by
    rintro members ⟨⟩
    change Json.Plain (121 + 3) _
    refine .object (by decide) fun member found => ?_
    rcases List.mem_pair.mp found with rfl | rfl
    · refine .array fun item found => ?_
      rcases List.mem_pair.mp found with rfl | rfl
      · exact .whole (by decide) (by decide)
      · exact .object List.Pairwise.nil (by simp)
    · exact .null

theorem held_beforeEra : beforeEra.Held where
  time := ⟨by decide, by decide⟩
  data := by rintro members ⟨⟩

theorem payload_decodes_far_years :
    ∃ first second : Json,
      Json.parse (payload [inLeapSecond, beforeEra]) =
        .ok (.object [("entries", .array [first, second])]) ∧
      Record.parse first.render = .ok inLeapSecond ∧
      Record.parse second.render = .ok beforeEra := by
  have held : ∀ record ∈ [inLeapSecond, beforeEra], record.Held := by
    intro record member
    rcases List.mem_pair.mp member with rfl | rfl
    · exact held_inLeapSecond
    · exact held_beforeEra
  obtain ⟨⟨entries, parsed, length, decodes⟩, exactly, -⟩ := payload_decodes held
  obtain ⟨first, second, rfl⟩ := List.length_eq_two.mp length
  have same : inLeapSecond.settled = inLeapSecond := (exactly _ (by simp)).mpr (by decide)
  have same' : beforeEra.settled = beforeEra := (exactly _ (by simp)).mpr (by decide)
  have firstRead := (decodes 0 _ _ rfl rfl).entry_parse
  have secondRead := (decodes 1 _ _ rfl rfl).entry_parse
  rw [same] at firstRead
  rw [same'] at secondRead
  exact ⟨first, second, parsed, firstRead, secondRead⟩

/-- A record of the first second of 2024, in a leap second after it. -/
def withinMinute : Record where
  severity := .info
  message := "m"
  time := ⟨1704067200, 1500000000⟩
  text? := fun _ => none
  data := none

/-- It goes out as the record of half a second past the next second. -/
theorem withinMinute_carried :
    withinMinute.Held ∧ { withinMinute with time := ⟨1704067201, 500000000⟩ }.Held ∧
      withinMinute ≠ { withinMinute with time := ⟨1704067201, 500000000⟩ } ∧
      payload [withinMinute] =
        payload [{ withinMinute with time := ⟨1704067201, 500000000⟩ }] ∧
      Record.parse withinMinute.text =
        .ok { withinMinute with time := ⟨1704067201, 500000000⟩ } := by
  have held : withinMinute.Held := ⟨⟨by decide, by decide⟩, by rintro members ⟨⟩⟩
  refine ⟨held, ⟨⟨by decide, by decide⟩, by rintro members ⟨⟩⟩, ?_,
    (payload_settled [withinMinute]).symm, held.decodes.text_parse⟩
  intro same
  exact absurd (congrArg Record.time same) (by decide)

end FeedMonitor.Record
