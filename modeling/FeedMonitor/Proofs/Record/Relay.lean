import FeedMonitor.Proofs.Record.Fitting

/-!
A record made again from the texts of another.

A text is trimmed before it is cut, so a cut can leave a blank at its end. Then the text is not
trimmed, and making the record again takes the blank away. The second record settles: its texts
stay what they are.
-/

namespace FeedMonitor

/-- The last character that fits of a text is a blank. -/
def Text.CutAtBlank (limit : Nat) (given : String) : Prop :=
  ∃ whole, Trims given.toList whole ∧ ∃ c, whole[limit - 1]? = some c ∧ isBlank c = true

theorem Text.cutAtBlank_iff {limit : Nat} {given : String} :
    CutAtBlank limit given ↔
      ∃ c, (trimChars given.toList)[limit - 1]? = some c ∧ isBlank c = true := by
  constructor
  · rintro ⟨whole, trims, blank⟩
    rw [← trims.eq]
    exact blank
  · intro blank
    exact ⟨_, trims_trimChars given.toList, blank⟩

theorem Text.not_cutAtBlank {limit : Nat} {given : String} (blank : AllBlank given.toList) :
    ¬CutAtBlank limit given := by
  have nothing : [] = trimChars given.toList :=
    Trims.eq ⟨⟨given.toList, [], by simp, blank, by simp [AllBlank]⟩, ⟨by simp, by simp⟩⟩
  rw [cutAtBlank_iff, ← nothing]
  simp

theorem Text.trimmed_clip_trim_iff {limit : Nat} (positive : 0 < limit) {given : String} :
    Trimmed (clip limit (trim given)).toList ↔ ¬CutAtBlank limit given := by
  have last : (clip limit (trim given)).toList.getLast? =
      (trimChars given.toList)[limit - 1]?.or (trimChars given.toList).getLast? := by
    rw [toList_clip_trim, List.getLast?_take, if_neg (by omega)]
  rw [cutAtBlank_iff]
  constructor
  · rintro ⟨-, visible⟩ ⟨c, found, blank⟩
    have ends := visible c (by rw [last, found]; rfl)
    rw [blank] at ends
    contradiction
  · intro uncut
    refine ⟨first_clip_trim limit given, ?_⟩
    intro c ends
    rw [last] at ends
    cases found : (trimChars given.toList)[limit - 1]? with
    | none =>
      rw [found] at ends
      exact (trimmed_trimChars given.toList).last c ends
    | some d =>
      rw [found] at ends
      obtain rfl := Option.some.inj ends
      exact Bool.eq_false_iff.mpr fun blank => uncut ⟨d, found, blank⟩

theorem Text.length_trimChars_le (cs : List Char) : (trimChars cs).length ≤ cs.length := by
  obtain ⟨front, back, split, -, -⟩ := (trims_trimChars cs).around
  have lengths := congrArg List.length split
  simp only [List.length_append] at lengths
  omega

/-- Nothing is cut of a text that fits. -/
theorem Text.clip_trim_of_le {limit : Nat} {s : String} (short : s.length ≤ limit) :
    clip limit (trim s) = trim s := by
  have shorter := length_trimChars_le s.toList
  rw [length_eq] at short
  rw [clip, toList_trim, List.take_of_length_le (by omega), trim]

theorem Text.trim_eq_self_iff {s : String} : trim s = s ↔ Trimmed s.toList := by
  rw [trimmed_iff, ← toList_trim, String.toList_inj]

theorem Text.trim_trim (s : String) : trim (trim s) = trim s := by
  rw [trim_eq_self_iff, toList_trim]
  exact trimmed_trimChars s.toList

theorem Text.not_allBlank_clip_trim {limit : Nat} (positive : 0 < limit) {given : String}
    (visible : ¬AllBlank given.toList) : ¬AllBlank (clip limit (trim given)).toList := by
  intro blank
  have first := first_clip_trim limit given
  have some := one_le_length_clip_trim positive visible
  rw [length_eq] at some
  cases chars : (clip limit (trim given)).toList with
  | nil => simp [chars] at some
  | cons c rest =>
    rw [chars] at first blank
    have shown := first c rfl
    rw [blank c List.mem_cons_self] at shown
    contradiction

namespace Record

/-- The calls that give a record the texts and the data of another one. -/
def calls (record : Record) : List Call :=
  ([Field.event, .sessionId, .userId, .environment, .source, .appVersion, .correlationId,
    .requestId].map fun field => Call.text field (record.text? field)) ++ [.data record.data]

/-- A record made again from what another one holds. -/
def relayed (record : Record) : Record :=
  ofCalls record.severity record.message record.time record.calls

section

variable (severity : Severity) (message : String) (time : Instant) (calls : List Call)

theorem lastText?_calls (record : Record) (field : Field) :
    lastText? field record.calls = record.text? field := by
  cases field <;> rfl

theorem message_relayed : (ofCalls severity message time calls).relayed.message =
    Text.trim (ofCalls severity message time calls).message := by
  rw [relayed, message_ofCalls]
  exact Text.clip_trim_of_le (fitting_ofCalls severity message time calls).messageLength

theorem text?_relayed (field : Field) : (ofCalls severity message time calls).relayed.text? field =
    ((ofCalls severity message time calls).text? field).map Text.trim := by
  have fitting := fitting_ofCalls severity message time calls
  rw [relayed, text?_ofCalls, lastText?_calls]
  cases kept : (ofCalls severity message time calls).text? field with
  | none => rfl
  | some text =>
    have short := (fitting.textLength field text kept).2
    rw [text?_ofCalls] at kept
    obtain ⟨given, -, visible, rfl⟩ := Field.keep_eq_some kept
    have shown := Text.not_allBlank_clip_trim field.limit_pos visible
    rw [Field.keep, Option.bind_some, Text.nonBlank?_eq_some shown, Option.map_some,
      Text.clip_trim_of_le short, Option.map_some]

end

/-- The texts of a record and of the one that is made again from it. -/
structure Relays (message : String) (calls : List Call) (record again : Record) : Prop where
  messageFirst : ∀ c ∈ record.message.toList.head?, Text.isBlank c = false
  messageTrimmed : Text.Trimmed record.message.toList ↔ ¬Text.CutAtBlank messageLimit message
  messageSame : again.message = record.message ↔ ¬Text.CutAtBlank messageLimit message
  messageAgain : Text.Trims record.message.toList again.message.toList
  textFirst : ∀ field text, record.text? field = some text →
    ∀ c ∈ text.toList.head?, Text.isBlank c = false
  textTrimmed : ∀ field text given, record.text? field = some text →
    lastText? field calls = some given →
      (Text.Trimmed text.toList ↔ ¬Text.CutAtBlank field.limit given)
  textSame : ∀ field, again.text? field = record.text? field ↔
    ∀ given, lastText? field calls = some given → ¬Text.CutAtBlank field.limit given
  textAgain : ∀ field text, record.text? field = some text →
    ∃ trimmed, again.text? field = some trimmed ∧ Text.Trims text.toList trimmed.toList

theorem relays_relayed (severity : Severity) (message : String) (time : Instant)
    (calls : List Call) : Relays message calls (ofCalls severity message time calls)
      (ofCalls severity message time calls).relayed := by
  have built := message_ofCalls severity message time calls
  have texts := text?_ofCalls severity message time calls
  have again := text?_relayed severity message time calls
  have trimmedMessage : Text.Trimmed (ofCalls severity message time calls).message.toList ↔
      ¬Text.CutAtBlank messageLimit message := by
    rw [built]
    exact Text.trimmed_clip_trim_iff (by decide)
  have fitting := fitting_ofCalls severity message time calls
  refine ⟨?_, trimmedMessage, ?_, ?_, fitting.textFirst, ?_, ?_, ?_⟩
  · rw [built]
    exact Text.first_clip_trim messageLimit message
  · rw [message_relayed, Text.trim_eq_self_iff, trimmedMessage]
  · rw [message_relayed, Text.toList_trim]
    exact Text.trims_trimChars _
  · intro field text given kept last
    rw [texts, last] at kept
    obtain ⟨other, same, -, rfl⟩ := Field.keep_eq_some kept
    obtain rfl := Option.some.inj same
    exact Text.trimmed_clip_trim_iff field.limit_pos
  · intro field
    rw [again, texts]
    cases last : lastText? field calls with
    | none => simp [Field.keep]
    | some given =>
      simp only [Option.some.injEq, forall_eq']
      by_cases blank : Text.AllBlank given.toList
      · have nothing : field.keep (some given) = none :=
          Field.keep_eq_none_iff.mpr fun other same => Option.some.inj same ▸ blank
        simp [nothing, Text.not_cutAtBlank blank]
      · rw [Field.keep, Option.bind_some, Text.nonBlank?_eq_some blank, Option.map_some,
          Option.map_some, Option.some.injEq, Text.trim_eq_self_iff,
          Text.trimmed_clip_trim_iff field.limit_pos]
  · intro field text kept
    refine ⟨Text.trim text, by rw [again, kept]; rfl, ?_⟩
    rw [Text.toList_trim]
    exact Text.trims_trimChars _

/-- Making a record again gives its texts exactly where no cut left a blank, and a record that was
made again stays as it is. -/
theorem relay_law (severity : Severity) (message : String) (time : Instant) (calls : List Call) :
    Relays message calls (ofCalls severity message time calls)
      (ofCalls severity message time calls).relayed ∧
    (ofCalls severity message time calls).relayed.relayed.message =
      (ofCalls severity message time calls).relayed.message ∧
    ∀ field, (ofCalls severity message time calls).relayed.relayed.text? field =
      (ofCalls severity message time calls).relayed.text? field := by
  have messages (record : Record) :
      record.relayed.relayed.message = Text.trim record.relayed.message :=
    message_relayed record.severity record.message record.time record.calls
  have texts (record : Record) (field : Field) :
      record.relayed.relayed.text? field = (record.relayed.text? field).map Text.trim :=
    text?_relayed record.severity record.message record.time record.calls field
  refine ⟨relays_relayed severity message time calls, ?_, ?_⟩
  · rw [messages, message_relayed, Text.trim_trim]
  · intro field
    have trims : Text.trim ∘ Text.trim = Text.trim := funext Text.trim_trim
    rw [texts, text?_relayed, Option.map_map, trims]

/-- A message and an environment whose last characters that fit are blanks. -/
def spacedMessage : String := String.ofList (List.replicate 511 'a' ++ [' ', 'b'])

def spacedEnvironment : String := String.ofList (List.replicate 31 'e' ++ [' ', 'x'])

def spacedCalls : List Call := [.text .environment (some spacedEnvironment)]

def spaced : Record := ofCalls .warn spacedMessage ⟨1704164645, 0⟩ spacedCalls

theorem cutAtBlank_spacedMessage : Text.CutAtBlank messageLimit spacedMessage := by
  have chars : spacedMessage.toList = List.replicate 511 'a' ++ [' ', 'b'] := String.toList_ofList
  rw [Text.cutAtBlank_iff, chars]
  exact ⟨' ', by decide +kernel, rfl⟩

theorem cutAtBlank_spacedEnvironment :
    Text.CutAtBlank Field.environment.limit spacedEnvironment := by
  have chars : spacedEnvironment.toList = List.replicate 31 'e' ++ [' ', 'x'] :=
    String.toList_ofList
  rw [Text.cutAtBlank_iff, chars]
  exact ⟨' ', by decide +kernel, rfl⟩

theorem blank_kept_at_cut :
    ¬Text.Trimmed spaced.message.toList ∧ spaced.relayed.message ≠ spaced.message ∧
      (∃ text, spaced.text? .environment = some text ∧ ¬Text.Trimmed text.toList) ∧
      spaced.relayed.text? .environment ≠ spaced.text? .environment := by
  have relays : Relays spacedMessage spacedCalls spaced spaced.relayed :=
    relays_relayed .warn spacedMessage ⟨1704164645, 0⟩ spacedCalls
  have last : lastText? .environment spacedCalls = some spacedEnvironment := rfl
  have kept : ∃ text, spaced.text? .environment = some text := by
    rw [← Option.isSome_iff_exists]
    decide +kernel
  obtain ⟨text, kept⟩ := kept
  refine ⟨?_, ?_, ⟨text, kept, ?_⟩, ?_⟩
  · intro trimmed
    exact relays.messageTrimmed.mp trimmed cutAtBlank_spacedMessage
  · intro same
    exact relays.messageSame.mp same cutAtBlank_spacedMessage
  · intro trimmed
    exact (relays.textTrimmed .environment text spacedEnvironment kept last).mp trimmed
      cutAtBlank_spacedEnvironment
  · intro same
    exact (relays.textSame .environment).mp same spacedEnvironment last
      cutAtBlank_spacedEnvironment

end Record

end FeedMonitor
