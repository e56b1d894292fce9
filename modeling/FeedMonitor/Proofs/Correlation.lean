import FeedMonitor.Correlation
import FeedMonitor.Proofs.Text.Bytes
import FeedMonitor.Proofs.Text.Trim
import Mathlib.Data.List.Induction

/-!
The ids of a handle: where they come from, and that an id taken from an answer can go out again.

Copies of a handle share its ids, so calls through any of them are one sequence. Each id is that of
the last call that wrote it. What is read from a field is text that a field may hold, so it can go out
again, behind the fields that a request has already. It is read back as it went out unless one of
these has its name, for the first field of a name decides.
-/

namespace FeedMonitor

open Web

namespace Correlation

/-! ### Texts that fields can hold -/

/-- A visible ASCII character, a space or a tab. -/
def PlainChar (c : Char) : Prop := 32 ≤ c.toNat ∧ c.toNat < 127 ∨ c.toNat = 9

/-- Such a text stands in a field as it is. -/
structure Sendable (id : String) : Prop where
  plain : ∀ c ∈ id.toList, PlainChar c
  trimmed : Text.Trimmed id.toList
  filled : id ≠ ""

def charOf (byte : UInt8) : Char := Char.ofNat byte.toNat

theorem isPlain_iff {byte : UInt8} :
    Header.isPlain byte = true ↔ 32 ≤ byte ∧ byte < 127 ∨ byte = 9 := by
  simp only [Header.isPlain, Bool.or_eq_true, Bool.and_eq_true, decide_eq_true_eq, beq_iff_eq]

theorem toNat_charOf (byte : UInt8) : (charOf byte).toNat = byte.toNat := by
  have below := byte.toNat_lt
  have valid : byte.toNat.isValidChar := .inl (by omega)
  rw [charOf, Char.ofNat, dif_pos valid]
  rfl

theorem plainChar_charOf {byte : UInt8} (plain : Header.isPlain byte = true) :
    PlainChar (charOf byte) := by
  rw [PlainChar, toNat_charOf]
  rcases isPlain_iff.mp plain with ⟨least, most⟩ | rfl
  · exact .inl ⟨UInt8.le_iff_toNat_le.mp least, UInt8.lt_iff_toNat_lt.mp most⟩
  · exact .inr rfl

/-- The byte of a plain character. -/
theorem PlainChar.encode {c : Char} (plain : PlainChar c) :
    ∃ byte, String.utf8EncodeChar c = [byte] ∧ Header.isPlain byte = true ∧ charOf byte = c := by
  have ascii : c.toNat < 0x80 := by
    rcases plain with ⟨-, most⟩ | tab <;> omega
  have code : (UInt8.ofNat c.toNat).toNat = c.toNat := by
    rw [UInt8.toNat_ofNat', Nat.mod_eq_of_lt (by omega)]
  refine ⟨UInt8.ofNat c.toNat, Text.encodeChar_of_lt ascii, isPlain_iff.mpr ?_, ?_⟩
  · rw [UInt8.le_iff_toNat_le, UInt8.lt_iff_toNat_lt, ← UInt8.toNat_inj, code]
    exact plain
  · rw [charOf, code, Char.ofNat_toNat]

/-- The bytes of plain characters are plain and stand for these characters. -/
theorem encode_plain {cs : List Char} (plain : ∀ c ∈ cs, PlainChar c) :
    (cs.flatMap String.utf8EncodeChar).all Header.isPlain = true ∧
      (cs.flatMap String.utf8EncodeChar).map charOf = cs := by
  induction cs with
  | nil => exact ⟨rfl, rfl⟩
  | cons c cs ih =>
    obtain ⟨byte, bytes, bytePlain, char⟩ := (plain c List.mem_cons_self).encode
    obtain ⟨all, chars⟩ := ih fun other member => plain other (List.mem_cons_of_mem _ member)
    rw [List.flatMap_cons, bytes, List.singleton_append]
    exact ⟨by rw [List.all_cons, bytePlain, all]; rfl, by rw [List.map_cons, char, chars]⟩

/-- The field that carries an id. -/
def fieldOf (id : String) : Header := ⟨correlationHeader, id.toUTF8.toList⟩

variable {id : String}

theorem Sendable.ofText? (sendable : Sendable id) :
    Header.ofText? correlationHeader id = some (fieldOf id) := by
  have plain := (encode_plain sendable.plain).1
  have legal : id.toUTF8.toList.all Header.isLegal = true := by
    rw [Text.toList_toUTF8, List.all_eq_true]
    exact fun byte member => Header.isLegal_of_isPlain (List.all_eq_true.mp plain byte member)
  simp only [Header.ofText?, legal, if_true, fieldOf]

theorem Sendable.idOf? (sendable : Sendable id) {others : List Header}
    (apart : ∀ other ∈ others, other.hasName correlationHeader = false) :
    idOf? (others ++ [fieldOf id]) correlationHeader = some id := by
  obtain ⟨plain, chars⟩ := encode_plain sendable.plain
  rw [← Text.toList_toUTF8] at plain chars
  have found : Header.find? (others ++ [fieldOf id]) correlationHeader = some (fieldOf id) :=
    List.find?_eq_some_iff_append.mpr
      ⟨BEq.rfl, others, [], rfl, fun other member => by rw [apart other member]; rfl⟩
  have text : (fieldOf id).text? = some (String.ofList (id.toUTF8.toList.map charOf)) :=
    if_pos plain
  have whole : Text.nonBlank? id = some id :=
    Text.nonBlank?_eq_some_iff.mpr ⟨sendable.trimmed.trims, sendable.filled⟩
  rw [Correlation.idOf?, found, Option.bind_some, text, Option.bind_some, chars,
    String.ofList_toList, whole]

/-! ### Ids of an answer -/

/-- The first field of a name holds nothing but visible characters, spaces and tabs, and what stands
between its blanks is the id. -/
def Carries (headers : List Header) (name id : String) : Prop :=
  ∃ before header after, headers = before ++ header :: after ∧
    (∀ other ∈ before, other.hasName name = false) ∧ header.hasName name = true ∧
    (∀ byte ∈ header.value, 32 ≤ byte ∧ byte < 127 ∨ byte = 9) ∧
    Text.Trims (header.value.map charOf) id.toList ∧ id ≠ ""

theorem idOf?_eq_some_iff {headers : List Header} {name : String} :
    idOf? headers name = some id ↔ Carries headers name id := by
  have text (header : Header) (s : String) : header.text? = some s ↔
      (∀ byte ∈ header.value, 32 ≤ byte ∧ byte < 127 ∨ byte = 9) ∧
        String.ofList (header.value.map charOf) = s := by
    simp only [Header.text?, Option.ite_none_right_eq_some, List.all_eq_true, isPlain_iff,
      Option.some.injEq]
    rfl
  simp only [idOf?, Option.bind_eq_some_iff, Header.find?, List.find?_eq_some_iff_append, text,
    Text.nonBlank?_eq_some_iff]
  constructor
  · rintro ⟨s, ⟨header, ⟨named, before, after, split, apart⟩, plain, rfl⟩, trims, filled⟩
    rw [String.toList_ofList] at trims
    exact ⟨before, header, after, split, fun other member => by simpa using apart other member,
      named, plain, trims, filled⟩
  · rintro ⟨before, header, after, split, apart, named, plain, trims, filled⟩
    refine ⟨_, ⟨header, ⟨named, before, after, split, fun other member => ?_⟩, plain, rfl⟩, ?_,
      filled⟩
    · rw [apart other member]
      rfl
    · rwa [String.toList_ofList]

theorem Carries.sendable {headers : List Header} {name : String}
    (carries : Carries headers name id) : Sendable id := by
  obtain ⟨before, header, after, -, -, -, plain, trims, filled⟩ := carries
  refine ⟨fun c member => ?_, trims.trimmed, filled⟩
  obtain ⟨front, back, split, -⟩ := trims.around
  have inside : c ∈ header.value.map charOf := by
    rw [split]
    exact List.mem_append_left back (List.mem_append_right front member)
  obtain ⟨byte, held, rfl⟩ := List.mem_map.mp inside
  exact plainChar_charOf (isPlain_iff.mpr (plain byte held))

/-! ### Calls -/

inductive Slot
  | correlation
  | request
deriving DecidableEq

def Slot.header : Slot → String
  | correlation => correlationHeader
  | request => requestHeader

def at? (correlation : Correlation) : Slot → Option String
  | .correlation => correlation.correlationId
  | .request => correlation.requestId

inductive Call
  | set (id : Option String)
  | clear
  | capture (headers : List Header)

def take (correlation : Correlation) : Call → Correlation
  | .set id => correlation.setCorrelationId id
  | .clear => none
  | .capture headers => correlation.capture headers

def ofCalls (calls : List Call) : Correlation := calls.foldl take none

/-- A call writes a value into a slot. -/
inductive Call.Writes : Call → Slot → Option String → Prop
  | set (id : Option String) : Writes (set id) .correlation id
  | clear (slot : Slot) : Writes clear slot .none
  | capture {headers : List Header} {slot : Slot} {id : String} :
    Carries headers slot.header id → Writes (capture headers) slot (some id)

def Call.Spares (call : Call) (slot : Slot) : Prop := ∀ value, ¬call.Writes slot value

/-- A call of a sequence writes the value and no later call writes the slot. -/
def LastWritten (calls : List Call) (slot : Slot) (call : Call) (value : Option String) : Prop :=
  ∃ before after, calls = before ++ call :: after ∧ call.Writes slot value ∧
    ∀ later ∈ after, later.Spares slot

variable {correlation : Correlation} {call : Call} {slot : Slot} {value : Option String}

theorem at?_capture (headers : List Header) :
    (correlation.capture headers).at? slot =
      (idOf? headers slot.header <|> correlation.at? slot) := by
  cases slot <;> rfl

theorem at?_of_writes (writes : call.Writes slot value) :
    (correlation.take call).at? slot = value := by
  cases writes with
  | set id => rfl
  | clear slot => cases slot <;> rfl
  | capture carries =>
    rw [take, at?_capture, idOf?_eq_some_iff.mpr carries]
    rfl

theorem at?_of_spares (spares : call.Spares slot) :
    (correlation.take call).at? slot = correlation.at? slot := by
  cases call with
  | set id =>
    cases slot with
    | correlation => exact absurd (.set id) (spares id)
    | request => rfl
  | clear => exact absurd (.clear slot) (spares .none)
  | capture headers =>
    have absent : idOf? headers slot.header = .none :=
      Option.eq_none_iff_forall_ne_some.mpr fun id found =>
        spares (some id) (.capture (idOf?_eq_some_iff.mp found))
    rw [take, at?_capture, absent]
    rfl

theorem ofCalls_concat (calls : List Call) (call : Call) :
    ofCalls (calls ++ [call]) = (ofCalls calls).take call := List.foldl_append

/-- What a slot holds is what was written last, or nothing if nothing was. -/
theorem at?_ofCalls (calls : List Call) (slot : Slot) :
    (∃ call, LastWritten calls slot call ((ofCalls calls).at? slot)) ∨
      (∀ call ∈ calls, call.Spares slot) ∧ (ofCalls calls).at? slot = .none := by
  induction calls using List.reverseRecOn with
  | nil => exact .inr ⟨fun _ => nofun, by cases slot <;> rfl⟩
  | append_singleton calls call ih =>
    rw [ofCalls_concat]
    by_cases written : ∃ value, call.Writes slot value
    · obtain ⟨value, writes⟩ := written
      rw [at?_of_writes writes]
      exact .inl ⟨call, calls, [], rfl, writes, fun _ => nofun⟩
    · have spares : call.Spares slot := fun value writes => written ⟨value, writes⟩
      rw [at?_of_spares spares]
      rcases ih with ⟨last, before, after, split, writes, spared⟩ | ⟨spared, nothing⟩
      · refine .inl ⟨last, before, after ++ [call], by rw [split]; simp, writes, ?_⟩
        intro later member
        rcases List.mem_append.mp member with earlier | here
        · exact spared later earlier
        · rwa [List.mem_singleton.mp here]
      · refine .inr ⟨fun other member => ?_, nothing⟩
        rcases List.mem_append.mp member with earlier | here
        · exact spared other earlier
        · rwa [List.mem_singleton.mp here]

theorem LastWritten.at?_eq {calls : List Call} (last : LastWritten calls slot call value) :
    (ofCalls calls).at? slot = value := by
  obtain ⟨before, after, rfl, writes, spared⟩ := last
  induction after using List.reverseRecOn with
  | nil => rw [ofCalls_concat, at?_of_writes writes]
  | append_singleton after later ih =>
    rw [← List.cons_append, ← List.append_assoc, ofCalls_concat,
      at?_of_spares (spared later (by simp))]
    exact ih fun other member => spared other (List.mem_append_left _ member)

theorem idOf?_append_of_named {fields : List Header} {name : String}
    (named : fields.any (·.hasName name) = true) (added : List Header) :
    idOf? (fields ++ added) name = idOf? fields name := by
  obtain ⟨field, found⟩ :=
    Option.isSome_iff_exists.mp (List.find?_isSome.mpr (List.any_eq_true.mp named))
  simp only [idOf?, Header.find?, List.find?_append, found, Option.some_or]

theorem outgoing?_of_sendable (held : correlation.correlationId = some id)
    (sendable : Sendable id) : correlation.outgoing? = some [fieldOf id] := by
  rw [outgoing?, held]
  simp only [sendable.ofText?, Option.map_some]

/-- Each id is the one that was written last. One that came with an answer goes out behind the fields
of a request, and it is read back unless one of these has its name. -/
theorem captured_sent (calls : List Call) :
    (∀ slot, (∃ call, LastWritten calls slot call ((ofCalls calls).at? slot)) ∨
      (∀ call ∈ calls, call.Spares slot) ∧ (ofCalls calls).at? slot = .none) ∧
    ∀ headers id, LastWritten calls .correlation (.capture headers) (some id) →
      (ofCalls calls).correlationId = some id ∧
      ∀ fields, ∃ built, (ofCalls calls).applyTo? fields = some built ∧
        built.filter (·.hasName correlationHeader) =
          fields.filter (·.hasName correlationHeader) ++ [⟨correlationHeader, id.toUTF8.toList⟩] ∧
        (ofHeaders built).correlationId =
          if fields.any (·.hasName correlationHeader) then (ofHeaders fields).correlationId
          else some id := by
  refine ⟨at?_ofCalls calls, fun headers id last => ?_⟩
  have held : (ofCalls calls).correlationId = some id := last.at?_eq
  obtain ⟨-, -, -, writes, -⟩ := last
  have sendable : Sendable id := by
    cases writes with
    | capture carries => exact carries.sendable
  refine ⟨held, fun fields => ⟨fields ++ [fieldOf id], ?_, ?_, ?_⟩⟩
  · rw [applyTo?, outgoing?_of_sendable held sendable, Option.map_some]
  · have named : (fieldOf id).hasName correlationHeader = true := BEq.rfl
    rw [List.filter_append, List.filter_cons, if_pos named]
    rfl
  · by_cases named : fields.any (·.hasName correlationHeader) = true
    · rw [if_pos named]
      exact idOf?_append_of_named named _
    · rw [if_neg named]
      refine sendable.idOf? fun field member => ?_
      exact Bool.eq_false_iff.mpr fun same => named (List.any_eq_true.mpr ⟨field, member, same⟩)

/-- An answer with two ids, the first one between blanks, and then one whose id is no plain text. -/
def answers : List Call :=
  [.set (some "old"),
    .capture [⟨"x-correlation-id", [9, 97, 32, 98, 32]⟩, ⟨"X-Correlation-ID", [99]⟩],
    .capture [⟨"X-Correlation-ID", [0xff]⟩]]

theorem captured_sent_answers :
    (ofCalls answers).correlationId = some "a b" ∧
    ∃ built, (ofCalls answers).applyTo? [⟨"Accept", [42]⟩] = some built ∧
      built.filter (·.hasName correlationHeader) = [⟨"X-Correlation-ID", [97, 32, 98]⟩] ∧
      (ofHeaders built).correlationId = some "a b" := by
  have carries : Carries [⟨"x-correlation-id", [9, 97, 32, 98, 32]⟩, ⟨"X-Correlation-ID", [99]⟩]
      correlationHeader "a b" := idOf?_eq_some_iff.mp (by decide)
  have spares : (Call.capture [⟨"X-Correlation-ID", [0xff]⟩]).Spares .correlation := by
    intro value writes
    cases writes with
    | capture carries =>
      have found := idOf?_eq_some_iff.mpr carries
      have none : idOf? [⟨"X-Correlation-ID", [0xff]⟩] Slot.correlation.header = .none := by decide
      rw [none] at found
      contradiction
  obtain ⟨held, out⟩ := (captured_sent answers).2 _ "a b"
    ⟨[.set (some "old")], [.capture [⟨"X-Correlation-ID", [0xff]⟩]], rfl, .capture carries,
      fun later member => List.mem_singleton.mp member ▸ spares⟩
  obtain ⟨built, applied, sent, read⟩ := out [⟨"Accept", [42]⟩]
  have bytes : "a b".toUTF8.toList = [97, 32, 98] := by
    rw [Text.toList_toUTF8]
    decide
  rw [bytes] at sent
  exact ⟨held, built, applied, sent.trans (by decide), read.trans (by decide)⟩

/-- A request that has a field of that name keeps it in front, and its id is the one read back. -/
theorem own_field_read_back :
    LastWritten [.capture [⟨"X-Correlation-ID", [110]⟩]] .correlation
      (.capture [⟨"X-Correlation-ID", [110]⟩]) (some "n") ∧
    ∃ built, (ofCalls [.capture [⟨"X-Correlation-ID", [110]⟩]]).applyTo?
        [⟨"X-Correlation-ID", [111]⟩] = some built ∧
      built.filter (·.hasName correlationHeader) =
        [⟨"X-Correlation-ID", [111]⟩, ⟨"X-Correlation-ID", [110]⟩] ∧
      (ofHeaders built).correlationId = some "o" := by
  have carries : Carries [⟨"X-Correlation-ID", [110]⟩] correlationHeader "n" :=
    idOf?_eq_some_iff.mp (by decide)
  have bytes : fieldOf "n" = ⟨"X-Correlation-ID", [110]⟩ := by
    rw [fieldOf, Text.toList_toUTF8]
    decide
  have out : (ofCalls [.capture [⟨"X-Correlation-ID", [110]⟩]]).outgoing? =
      some [⟨"X-Correlation-ID", [110]⟩] := by
    rw [outgoing?_of_sendable (by decide) carries.sendable, bytes]
  refine ⟨⟨[], [], rfl, .capture carries, nofun⟩, _, congrArg _ out, ?_, ?_⟩
  · decide
  · decide

end Correlation

end FeedMonitor
