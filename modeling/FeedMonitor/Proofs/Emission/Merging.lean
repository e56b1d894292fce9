import FeedMonitor.Proofs.Dedup.Recency
import FeedMonitor.Proofs.Emission.Run

/-!
Which emissions the limiter takes for one another.

Their keys are made of the texts as they were given, their records of what is left of these. The two
agree but for blank tags: a record has no event where its emission had a blank tag, while the key has
that tag and not the message. Where no tag is blank, emissions of unlike records have unlike keys.
-/

namespace FeedMonitor

/-- Records that say unlike things: at unlike severities, of unlike events, or in unlike messages
where there is no event. -/
inductive Record.Unlike (record other : Record) : Prop
  | severity (differ : record.severity ≠ other.severity)
  | event (tag otherTag : String) (has : record.text? .event = some tag)
      (otherHas : other.text? .event = some otherTag) (differ : tag ≠ otherTag)
  | message (untagged : record.text? .event = none) (otherUntagged : other.text? .event = none)
      (differ : record.message ≠ other.message)

namespace Emission

/-- What the limiter takes an emission to be about. -/
def subject (emission : Emission) : String := emission.context.event.getD emission.message

/-- A record that some emitter may make of an emission. -/
def Makes (emission : Emission) (record : Record) : Prop :=
  ∃ (emitter : Emitter) (time : Instant) (data : Option Json.Members),
    record = emitter.record time emission emission.context.event data

/-- Two emissions are about one blank text, which is the tag of one of them. -/
def ShareBlankTag (emission other : Emission) : Prop :=
  emission.severity = other.severity ∧ ∃ tag, Text.nonBlank? tag = none ∧
    (emission.context.event = some tag ∨ other.context.event = some tag) ∧
    emission.subject = tag ∧ other.subject = tag

variable {emission other : Emission} {record otherRecord : Record}

theorem Makes.severity (makes : emission.Makes record) : record.severity = emission.severity := by
  obtain ⟨emitter, time, data, rfl⟩ := makes
  rfl

theorem Makes.message (makes : emission.Makes record) :
    record.message = Text.clip Record.messageLimit (Text.trim emission.message) := by
  obtain ⟨emitter, time, data, rfl⟩ := makes
  rfl

theorem Makes.event (makes : emission.Makes record) :
    record.text? .event = Record.Field.event.keep emission.context.event := by
  obtain ⟨emitter, time, data, rfl⟩ := makes
  simp [Emitter.record, Record.withText, Record.withData]

theorem key_text_eq_iff :
    emission.key.text = other.key.text ↔
      emission.severity = other.severity ∧ emission.subject = other.subject := by
  rw [Limiter.Key.text_injective.eq_iff, key, key, Limiter.Key.of, Limiter.Key.of,
    Limiter.Key.mk.injEq]
  rfl

theorem Makes.tagged {tag : String} (makes : emission.Makes record)
    (has : record.text? .event = some tag) : ∃ given, emission.context.event = some given := by
  rw [makes.event, Record.Field.keep] at has
  obtain ⟨kept, found, -⟩ := Option.map_eq_some_iff.mp has
  obtain ⟨given, tagged, -⟩ := Option.bind_eq_some_iff.mp found
  exact ⟨given, tagged⟩

/-- A record has no event if there was no tag, or a blank one. -/
theorem Makes.untagged (makes : emission.Makes record) (untagged : record.text? .event = none) :
    emission.context.event = none ∨
      ∃ tag, emission.context.event = some tag ∧ Text.nonBlank? tag = none := by
  rw [makes.event, Record.Field.keep, Option.map_eq_none_iff, Option.bind_eq_none_iff] at untagged
  cases tagged : emission.context.event with
  | none => exact .inl rfl
  | some tag => exact .inr ⟨tag, rfl, untagged tag tagged⟩

theorem subject_of_event {tag : String} (tagged : emission.context.event = some tag) :
    emission.subject = tag := by
  rw [subject, tagged, Option.getD_some]

theorem subject_of_untagged (untagged : emission.context.event = none) :
    emission.subject = emission.message := by
  rw [subject, untagged, Option.getD_none]

/-- Emissions of unlike records share a key by a blank tag and in no other way. -/
theorem key_text_eq_iff_of_unlike (makes : emission.Makes record)
    (otherMakes : other.Makes otherRecord) (unlike : record.Unlike otherRecord) :
    emission.key.text = other.key.text ↔ emission.ShareBlankTag other := by
  rw [key_text_eq_iff]
  constructor
  · rintro ⟨severity, subject⟩
    refine ⟨severity, ?_⟩
    cases unlike with
    | severity differ =>
      rw [makes.severity, otherMakes.severity] at differ
      exact absurd severity differ
    | event tag otherTag has otherHas differ =>
      obtain ⟨given, tagged⟩ := makes.tagged has
      obtain ⟨otherGiven, otherTagged⟩ := otherMakes.tagged otherHas
      rw [makes.event] at has
      rw [otherMakes.event] at otherHas
      -- One subject means one tag here, of which one text is kept.
      rw [subject_of_event tagged, subject_of_event otherTagged] at subject
      rw [tagged, subject, ← otherTagged, otherHas] at has
      exact absurd (Option.some.inj has).symm differ
    | message untagged otherUntagged differ =>
      rcases makes.untagged untagged with none | ⟨tag, tagged, blank⟩
      · rcases otherMakes.untagged otherUntagged with otherNone | ⟨tag, tagged, blank⟩
        · rw [subject_of_untagged none, subject_of_untagged otherNone] at subject
          rw [makes.message, otherMakes.message, subject] at differ
          exact absurd rfl differ
        · have about := subject_of_event tagged
          exact ⟨tag, blank, .inr tagged, subject.trans about, about⟩
      · have about := subject_of_event tagged
        exact ⟨tag, blank, .inl tagged, about, subject.symm.trans about⟩
  · rintro ⟨severity, tag, -, -, about, otherAbout⟩
    exact ⟨severity, about.trans otherAbout.symm⟩

end Emission

namespace Emitter

def Call.emission? : Call → Option Emission
  | .emit _ _ emission => some emission
  | .setDedup _ _ => none

def emissions (calls : List Call) : List Emission := calls.filterMap Call.emission?

variable {emitter : Emitter} {now : Span} {emission : Emission}

theorem attempted_seen (calls : List Call) :
    Limiter.attempted (calls.map Call.seen) = (emissions calls).map Emission.key := by
  induction calls with
  | nil => rfl
  | cons call rest ih =>
    have split : Limiter.attempted ((call :: rest).map Call.seen) =
        call.seen.keys ++ Limiter.attempted (rest.map Call.seen) := rfl
    rw [split, ih]
    cases call with
    | emit now time emission => rfl
    | setDedup window threshold => rfl

/-- Nothing is suppressed but after an emission with the same key. -/
theorem exists_of_suppress {window : Span} {threshold mostKeys : Nat} {calls : List Call}
    (fresh : emitter.limiter = .ofSettings window threshold mostKeys)
    (suppressed : (emitter.after calls).verdict now emission = .suppress) :
    ∃ other ∈ emissions calls, emission.key.text = other.key.text := by
  obtain ⟨held, entry, found, -⟩ := limiter_of_suppress suppressed
  have tracked : (emitter.after calls).limiter.tracks emission.key = true := by
    rw [Limiter.tracks, found, Option.isSome_some]
  have recent := Limiter.Recent.of_after window threshold mostKeys (calls.map Call.seen)
  rw [after, fresh] at tracked
  have attempted := ((recent.tracks_iff emission.key).mp tracked).1
  rw [attempted_seen] at attempted
  obtain ⟨other, member, same⟩ := List.mem_map.mp attempted
  exact ⟨other, member, congrArg Limiter.Key.text same.symm⟩

/-- A suppressed emission was taken for an earlier one. If their records are unlike, the two share a
blank tag. -/
theorem like_or_blank_of_suppress {window : Span} {threshold mostKeys : Nat} {calls : List Call}
    (fresh : emitter.limiter = .ofSettings window threshold mostKeys)
    (suppressed : (emitter.after calls).verdict now emission = .suppress) :
    ∃ other ∈ emissions calls, emission.key.text = other.key.text ∧
      ∀ record otherRecord, emission.Makes record → other.Makes otherRecord →
        record.Unlike otherRecord → emission.ShareBlankTag other := by
  obtain ⟨other, member, same⟩ := exists_of_suppress fresh suppressed
  refine ⟨other, member, same, ?_⟩
  intro record otherRecord makes otherMakes unlike
  exact (Emission.key_text_eq_iff_of_unlike makes otherMakes unlike).mp same

theorem merging_law (emission : Emission) :
    (∀ other record otherRecord, emission.Makes record → other.Makes otherRecord →
      record.Unlike otherRecord →
      (emission.key.text = other.key.text ↔ emission.ShareBlankTag other)) ∧
    ∀ (window : Span) (threshold mostKeys : Nat) (emitter : Emitter) (calls : List Call) (now : Span),
      emitter.limiter = .ofSettings window threshold mostKeys →
      (emitter.after calls).verdict now emission = .suppress →
      ∃ other ∈ emissions calls, emission.key.text = other.key.text ∧
        ∀ record otherRecord, emission.Makes record → other.Makes otherRecord →
          record.Unlike otherRecord → emission.ShareBlankTag other := by
  constructor
  · intro other record otherRecord makes otherMakes unlike
    exact Emission.key_text_eq_iff_of_unlike makes otherMakes unlike
  · intro window threshold mostKeys emitter calls now fresh suppressed
    exact like_or_blank_of_suppress fresh suppressed

/-- A warning without a tag. -/
def plainWarning (message : String) : Emission := ⟨.warn, message, .empty, .none⟩

theorem plainWarning_makes (message : String) :
    (plainWarning message).Makes (quiet.record ⟨0, 0⟩ (plainWarning message) none none) :=
  ⟨quiet, ⟨0, 0⟩, none, rfl⟩

/-- Untagged warnings of two matters have two keys, and the second one of a matter is suppressed on
account of the first. -/
theorem merging_law_plain :
    (plainWarning "disk almost full").key.text ≠ (plainWarning "payment failed").key.text ∧
      (quiet.after [.emit ⟨0⟩ ⟨0, 0⟩ (plainWarning "disk almost full"),
        .emit ⟨3⟩ ⟨3, 0⟩ (plainWarning "payment failed")]).verdict ⟨5⟩
          (plainWarning "payment failed") = .suppress ∧
      ∃ other ∈ [plainWarning "disk almost full", plainWarning "payment failed"],
        (plainWarning "payment failed").key.text = other.key.text := by
  obtain ⟨apart, -⟩ := merging_law (plainWarning "disk almost full")
  obtain ⟨-, repeats⟩ := merging_law (plainWarning "payment failed")
  have unlike : (quiet.record ⟨0, 0⟩ (plainWarning "disk almost full") none none).Unlike
      (quiet.record ⟨0, 0⟩ (plainWarning "payment failed") none none) :=
    .message (plainWarning_makes _).event (plainWarning_makes _).event (by decide +kernel)
  have suppressed : (quiet.after [.emit ⟨0⟩ ⟨0, 0⟩ (plainWarning "disk almost full"),
      .emit ⟨3⟩ ⟨3, 0⟩ (plainWarning "payment failed")]).verdict ⟨5⟩
        (plainWarning "payment failed") = .suppress := by decide +kernel
  refine ⟨fun same => ?_, suppressed, ?_⟩
  · obtain ⟨-, tag, -, tagged | tagged, -⟩ := (apart _ _ _ (plainWarning_makes _)
      (plainWarning_makes _) unlike).mp same
    · contradiction
    · contradiction
  · obtain ⟨other, member, same, -⟩ := repeats ⟨10⟩ 5 4 quiet _ ⟨5⟩ rfl suppressed
    exact ⟨other, member, same⟩

/-- A warning with a blank tag. -/
def blankWarning (message : String) : Emission :=
  ⟨.warn, message, Context.empty.withEvent " ", .none⟩

theorem blankWarning_makes (message : String) :
    (blankWarning message).Makes (quiet.record ⟨0, 0⟩ (blankWarning message) (some " ") none) :=
  ⟨quiet, ⟨0, 0⟩, none, rfl⟩

/-- Warnings of two matters in records without events, the second of which is suppressed. -/
theorem unlike_warnings_merged :
    (run Delivery.System.send? quiet none
      [.emit ⟨0⟩ ⟨0, 0⟩ (blankWarning "disk almost full"),
        .emit ⟨3⟩ ⟨3, 0⟩ (blankWarning "payment failed")]).outcomes = [.localOnly, .suppressed] ∧
    ¬∀ (emission other : Emission) (record otherRecord : Record), emission.Makes record →
      other.Makes otherRecord → record.Unlike otherRecord → emission.key.text ≠ other.key.text := by
  refine ⟨by decide +kernel, ?_⟩
  intro always
  have untagged (message : String) :
      (quiet.record ⟨0, 0⟩ (blankWarning message) (some " ") none).text? .event = none := by
    have dropped : Record.Field.event.keep (some " ") = none := by decide
    exact (blankWarning_makes message).event.trans dropped
  refine always _ _ _ _ (blankWarning_makes "disk almost full") (blankWarning_makes "payment failed")
    (.message (untagged _) (untagged _) ?_) rfl
  decide +kernel

end Emitter

end FeedMonitor
