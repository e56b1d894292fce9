import FeedMonitor.Proofs.Text.Trim
import FeedMonitor.Record
import Mathlib.Data.List.Induction

/-!
The texts of a record that is built by calls.

A field holds what it keeps of the text that the last call for it gave, so the texts fit the
collector whatever the calls were, and calls for different parts of a record commute.
-/

namespace FeedMonitor

/-- `part` is what fits of a text within `limit` characters, once it is trimmed: all of it or its
start. -/
def Text.Fits (limit : Nat) (given part : String) : Prop :=
  ∃ whole, Trims given.toList whole ∧ part.toList <+: whole ∧
    part.length = min limit whole.length

theorem Text.length_eq (s : String) : s.length = s.toList.length := String.length_toList.symm

theorem Text.toList_clip_trim (limit : Nat) (given : String) :
    (clip limit (trim given)).toList = (trimChars given.toList).take limit := by
  rw [clip, String.toList_ofList, toList_trim]

theorem Text.fits_iff {limit : Nat} {given part : String} :
    Fits limit given part ↔ part = clip limit (trim given) := by
  constructor
  · rintro ⟨whole, trims, start, length⟩
    have chars : part.toList = whole.take limit := by
      rw [List.prefix_iff_eq_take.mp start, ← length_eq, length, ← List.take_eq_take_min]
    rw [clip, toList_trim, ← trims.eq, ← chars, String.ofList_toList]
  · rintro rfl
    refine ⟨_, trims_trimChars given.toList, ?_, ?_⟩
    · rw [toList_clip_trim]
      exact List.take_prefix limit _
    · rw [length_eq, toList_clip_trim, List.length_take]

theorem Text.Fits.length_le {limit : Nat} {given part : String} (fits : Fits limit given part) :
    part.length ≤ limit := by
  obtain ⟨whole, -, -, length⟩ := fits
  omega

/-- The start of a trimmed text begins as the text does. -/
theorem Text.first_clip_trim (limit : Nat) (given : String) :
    ∀ c ∈ (clip limit (trim given)).toList.head?, isBlank c = false := by
  intro c first
  rw [toList_clip_trim, List.head?_take] at first
  split at first
  · contradiction
  · exact (trimmed_trimChars given.toList).first c first

theorem Text.one_le_length_clip_trim {limit : Nat} (positive : 0 < limit) {given : String}
    (visible : ¬AllBlank given.toList) : 1 ≤ (clip limit (trim given)).length := by
  have some := List.length_pos_iff.mpr (trimChars_ne_nil visible)
  rw [length_eq, toList_clip_trim, List.length_take]
  omega

namespace Record

theorem Field.keep_eq_none_iff {field : Field} {text : Option String} :
    field.keep text = none ↔ ∀ given, text = some given → Text.AllBlank given.toList := by
  cases text with
  | none => simp [keep]
  | some given => simp [keep, Text.nonBlank?_eq_none_iff]

theorem Field.keep_eq_some {field : Field} {text : Option String} {part : String}
    (kept : field.keep text = some part) :
    ∃ given, text = some given ∧ ¬Text.AllBlank given.toList ∧
      part = Text.clip field.limit (Text.trim given) := by
  obtain ⟨trimmed, visible, rfl⟩ := Option.map_eq_some_iff.mp kept
  obtain ⟨given, rfl, left⟩ := Option.bind_eq_some_iff.mp visible
  have some : ¬Text.AllBlank given.toList := by
    rw [← Text.nonBlank?_eq_none_iff, left]
    simp
  rw [Text.nonBlank?_eq_some some] at left
  obtain rfl := Option.some.inj left
  exact ⟨given, rfl, some, rfl⟩

theorem Field.fits_of_keep {field : Field} {text : Option String} {part : String}
    (kept : field.keep text = some part) :
    ∃ given, text = some given ∧ Text.Fits field.limit given part := by
  obtain ⟨given, same, -, fits⟩ := Field.keep_eq_some kept
  exact ⟨given, same, Text.fits_iff.mpr fits⟩

/-! ### Calls -/

inductive Call
  | time (time : Instant)
  | text (field : Field) (text : Option String)
  | data (data : Option Json.Members)

/-- The part of a record that a call sets. -/
def Call.slot : Call → Slot
  | time _ => .time
  | text field _ => .text field
  | data _ => .data

def take (record : Record) : Call → Record
  | .time time => record.withTime time
  | .text field text => record.withText field text
  | .data data => record.withData data

def ofCalls (severity : Severity) (message : String) (time : Instant) (calls : List Call) :
    Record :=
  calls.foldl take (ofMessage severity message time)

def Call.textOf? (field : Field) : Call → Option (Option String)
  | text other given => if other = field then some given else none
  | time _ => none
  | data _ => none

/-- The text that the last call for a field gave, if it gave one. -/
def lastText? (field : Field) (calls : List Call) : Option String :=
  (calls.reverse.findSome? (Call.textOf? field)).join

theorem take_comm (record : Record) {call other : Call} (differ : call.slot ≠ other.slot) :
    (record.take call).take other = (record.take other).take call := by
  cases call with
  | time time =>
    cases other with
    | time other => exact absurd rfl differ
    | text field text => rfl
    | data data => rfl
  | data data =>
    cases other with
    | time time => rfl
    | text field text => rfl
    | data other => exact absurd rfl differ
  | text field text =>
    cases other with
    | time time => rfl
    | data data => rfl
    | text otherField otherText =>
      have fields : field ≠ otherField := fun same => differ (congrArg Slot.text same)
      simp only [take, withText, Record.mk.injEq, true_and, and_true]
      funext at_
      by_cases first : at_ = field
      · subst first
        simp [fields]
      · simp [first]

theorem lastText?_concat (field : Field) (calls : List Call) (call : Call) :
    lastText? field (calls ++ [call]) = (call.textOf? field).getD (lastText? field calls) := by
  rw [lastText?, List.reverse_append, List.reverse_singleton, List.singleton_append,
    List.findSome?_cons]
  cases call.textOf? field <;> rfl

theorem ofCalls_concat (severity : Severity) (message : String) (time : Instant)
    (calls : List Call) (call : Call) :
    ofCalls severity message time (calls ++ [call]) =
      (ofCalls severity message time calls).take call :=
  List.foldl_append

theorem text?_ofCalls (severity : Severity) (message : String) (time : Instant)
    (calls : List Call) (field : Field) :
    (ofCalls severity message time calls).text? field = field.keep (lastText? field calls) := by
  induction calls using List.reverseRecOn with
  | nil => rfl
  | append_singleton calls call ih =>
    rw [ofCalls_concat, lastText?_concat]
    cases call with
    | time time => exact ih
    | data data => exact ih
    | text other given =>
      by_cases same : other = field
      · subst same
        rw [Call.textOf?, if_pos rfl]
        exact withText_same _ other given
      · rw [Call.textOf?, if_neg same]
        exact (withText_other (Ne.symm same) _ given).trans ih

theorem message_ofCalls (severity : Severity) (message : String) (time : Instant)
    (calls : List Call) :
    (ofCalls severity message time calls).message = Text.clip messageLimit (Text.trim message) := by
  induction calls using List.reverseRecOn with
  | nil => rfl
  | append_singleton calls call ih =>
    rw [ofCalls_concat]
    cases call <;> exact ih

/-! ### What fits -/

/-- The texts of a record, against the message and the calls that it was made of. -/
structure Fitting (message : String) (calls : List Call) (record : Record) : Prop where
  message : Text.Fits messageLimit message record.message
  messageLength : record.message.length ≤ messageLimit
  text : ∀ field text, record.text? field = some text →
    ∃ given, lastText? field calls = some given ∧ Text.Fits field.limit given text
  textLength : ∀ field text, record.text? field = some text →
    1 ≤ text.length ∧ text.length ≤ field.limit
  textFirst : ∀ field text, record.text? field = some text →
    ∀ c ∈ text.toList.head?, Text.isBlank c = false
  absent : ∀ field, record.text? field = none ↔
    ∀ given, lastText? field calls = some given → Text.AllBlank given.toList

theorem fitting_ofCalls (severity : Severity) (message : String) (time : Instant)
    (calls : List Call) : Fitting message calls (ofCalls severity message time calls) := by
  have messageFits : Text.Fits messageLimit message (ofCalls severity message time calls).message :=
    Text.fits_iff.mpr (message_ofCalls severity message time calls)
  refine ⟨messageFits, messageFits.length_le, ?_, ?_, ?_, ?_⟩
  · intro field text kept
    rw [text?_ofCalls] at kept
    exact Field.fits_of_keep kept
  · intro field text kept
    rw [text?_ofCalls] at kept
    obtain ⟨given, -, visible, rfl⟩ := Field.keep_eq_some kept
    exact ⟨Text.one_le_length_clip_trim field.limit_pos visible,
      (Text.fits_iff.mpr rfl : Text.Fits field.limit given _).length_le⟩
  · intro field text kept
    rw [text?_ofCalls] at kept
    obtain ⟨given, -, -, rfl⟩ := Field.keep_eq_some kept
    exact Text.first_clip_trim field.limit given
  · intro field
    rw [text?_ofCalls]
    exact Field.keep_eq_none_iff

/-- Every record fits the collector, and calls for different parts of it may change places. -/
theorem texts_fit (severity : Severity) (message : String) (time : Instant) (calls : List Call) :
    (messageLimit = 512 ∧ [Field.event, .sessionId, .userId, .appVersion, .correlationId,
      .requestId, .environment, .source].map Field.limit = [128, 64, 64, 64, 128, 128, 32, 32]) ∧
    Fitting message calls (ofCalls severity message time calls) ∧
    ∀ call other rest, call.slot ≠ other.slot →
      ofCalls severity message time (calls ++ call :: other :: rest) =
        ofCalls severity message time (calls ++ other :: call :: rest) := by
  refine ⟨⟨rfl, rfl⟩, fitting_ofCalls severity message time calls, ?_⟩
  intro call other rest differ
  simp only [ofCalls, List.foldl_append, List.foldl_cons]
  rw [take_comm _ differ]

end Record

end FeedMonitor
