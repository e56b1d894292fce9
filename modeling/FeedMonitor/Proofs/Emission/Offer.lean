import FeedMonitor.Emitter
import FeedMonitor.Proofs.Dedup.Call
import FeedMonitor.Proofs.Emission.Context
import FeedMonitor.Proofs.Record.Fitting

/-!
What an emitter does with one emission.

The limiter decides first. Of an emission that it suppresses nothing is seen, and nothing changes but
what is held of its key. Of any other one a record is made from what that emission was given, shown
locally if it is serious, and offered to the channel once. What is shown does not depend on the
channel.
-/

namespace FeedMonitor

def Emission.key (emission : Emission) : Limiter.Key :=
  .of emission.severity emission.message emission.context.event

def Emission.attempt (emission : Emission) (now : Span) : Limiter.Attempt :=
  ⟨now, emission.key, emission.context⟩

/-- Local copies of records, as opposed to lines about what goes on. -/
def Journal.Entry.isEcho : Journal.Entry → Bool
  | .echo .. => true
  | .line .. => false

def Journal.echoes (journal : Journal) : Journal := journal.filter Journal.Entry.isEcho

theorem Journal.echoes_append (journal more : Journal) :
    Journal.echoes (journal ++ more) = journal.echoes ++ more.echoes := List.filter_append ..

theorem Journal.echoes_of_lines {journal : Journal}
    (lines : ∀ entry ∈ journal, ∃ text, entry = Journal.telemetry .debug text) :
    journal.echoes = [] := by
  refine List.filter_eq_nil_iff.mpr fun entry member => ?_
  obtain ⟨text, rfl⟩ := lines entry member
  exact Bool.false_ne_true

theorem Record.echoes_echo? (record : Record) :
    Journal.echoes record.echo?.toList = record.echo?.toList := by
  unfold Record.echo?
  split <;> rfl

/-- The members of an emission's data after a verdict, by those it has without one. -/
def Limiter.Verdict.data (window : Span) (plain : Option Json.Members) :
    Verdict → Option Json.Members
  | .suppress => none
  | .pass => plain
  | .mark suppressed => some (marked (plain.getD []) suppressed window)

namespace Emitter

/-- The emitter after an emission: its limiter has seen the attempt, and nothing else has changed. -/
def tried (emitter : Emitter) (now : Span) (emission : Emission) : Emitter :=
  { emitter with limiter := emitter.limiter.take (.attempt (emission.attempt now)) }

/-- What the limiter says to an emission. -/
def verdict (emitter : Emitter) (now : Span) (emission : Emission) : Limiter.Verdict :=
  (Limiter.meet emitter.limiter.window emitter.limiter.threshold
    (emitter.limiter.held? emission.key) now).1

/-- The record of an emission, unless it is suppressed. -/
def record? (emitter : Emitter) (now : Span) (time : Instant) (emission : Emission) :
    Option Record :=
  (emitter.limiter.answer (emission.attempt now)).map fun context =>
    emitter.record time emission emission.context.event context.snapshot.1

variable {σ : Type} (send? : σ → Delivery.Command → Option σ)

/-- One attempt to send a record if there is one. -/
def post (channel : Option σ) : Option Record → Outcome × Option σ
  | none => (.suppressed, channel)
  | some record =>
    match channel.bind fun open_ => send? open_ (.enqueue record) with
    | some next => (.queued, some next)
    | none => (.localOnly, channel)

end Emitter

namespace Limiter

theorem Verdict.apply_eq_none {window : Span} {context : Context} {verdict : Verdict} :
    verdict.apply window context = none ↔ verdict = .suppress := by
  cases verdict <;> simp [apply]

/-- An attempt is suppressed only at a key that is held, and only what is held of it changes. -/
theorem offer_of_suppress {limiter : Limiter} {attempt : Attempt}
    (suppressed : (meet limiter.window limiter.threshold (limiter.held? attempt.key)
      attempt.now).1 = .suppress) :
    ∃ held entry, limiter.held? attempt.key = some held ∧
      limiter.offer attempt.now attempt.key attempt.context =
        (none, { limiter with
          entries := without attempt.key.text limiter.entries ++ [(attempt.key.text, entry)] },
          []) := by
  cases found : limiter.held? attempt.key with
  | none =>
    rw [found] at suppressed
    contradiction
  | some held =>
    rw [found] at suppressed
    refine ⟨held, (judge limiter.window limiter.threshold held attempt.now).2, rfl, ?_⟩
    have verdict : (judge limiter.window limiter.threshold held attempt.now).1 = .suppress :=
      suppressed
    simp only [offer, attempt_of_tracked found, verdict]
    rfl

theorem lines_offer (limiter : Limiter) (attempt : Attempt) :
    ∀ entry ∈ (limiter.offer attempt.now attempt.key attempt.context).2.2,
      ∃ text, entry = Journal.telemetry .debug text := by
  intro entry member
  obtain ⟨text, -, rfl⟩ := List.mem_map.mp member
  exact ⟨_, rfl⟩

end Limiter

namespace Emitter

variable {σ : Type} (send? : σ → Delivery.Command → Option σ)
  {emitter : Emitter} {now : Span} {time : Instant} {emission : Emission}

theorem limiter_of_suppress (suppressed : emitter.verdict now emission = .suppress) :
    ∃ held entry, emitter.limiter.held? emission.key = some held ∧
      emitter.limiter.offer now emission.key emission.context =
        (none, { emitter.limiter with
          entries := Limiter.without emission.key.text emitter.limiter.entries ++
            [(emission.key.text, entry)] }, []) :=
  have verdict : (Limiter.meet emitter.limiter.window emitter.limiter.threshold
      (emitter.limiter.held? (emission.attempt now).key) (emission.attempt now).now).1 =
        .suppress := suppressed
  Limiter.offer_of_suppress verdict

theorem answer_eq (emitter : Emitter) (now : Span) (emission : Emission) :
    emitter.limiter.answer (emission.attempt now) =
      (emitter.verdict now emission).apply emitter.limiter.window emission.context :=
  Limiter.answer_eq ..

/-- What the limiter answers decides what is offered; the emitter changes as the limiter does. -/
theorem offer_eq (emitter : Emitter) (now : Span) (time : Instant) (emission : Emission) :
    emitter.offer now time emission =
      (emitter.record? now time emission, emitter.tried now emission,
        (emitter.limiter.offer now emission.key emission.context).2.2 ++
          match emitter.limiter.answer (emission.attempt now) with
          | none => []
          | some context => context.snapshot.2 ++
            (emitter.record time emission emission.context.event context.snapshot.1).echo?.toList) := by
  have answered : (emitter.limiter.offer now emission.key emission.context).1 =
      emitter.limiter.answer (emission.attempt now) := rfl
  have taken : emitter.tried now emission =
      { emitter with limiter := (emitter.limiter.offer now emission.key emission.context).2.1 } :=
    rfl
  rw [record?, ← answered, taken]
  simp only [offer, Emission.key]
  rcases emitter.limiter.offer now
    (Limiter.Key.of emission.severity emission.message emission.context.event)
    emission.context with ⟨answer, limiter, journal⟩
  cases answer with
  | none => simp
  | some context =>
    simp only [Option.map_some, List.append_assoc]
    rfl

theorem offer_of_suppress (time : Instant)
    (suppressed : emitter.verdict now emission = .suppress) :
    emitter.record? now time emission = none ∧
      emitter.offer now time emission = (none, emitter.tried now emission, []) := by
  obtain ⟨held, entry, -, offered⟩ := limiter_of_suppress suppressed
  have answer : emitter.limiter.answer (emission.attempt now) = none := by
    rw [answer_eq, suppressed]
    rfl
  have none : emitter.record? now time emission = none := by
    rw [record?, answer]
    rfl
  refine ⟨none, ?_⟩
  rw [offer_eq, none, answer, offered]
  rfl

theorem offer_of_admitted {context : Context} (time : Instant)
    (admitted : emitter.limiter.answer (emission.attempt now) = some context) :
    ∃ record journal, emitter.record? now time emission = some record ∧
      record = emitter.record time emission emission.context.event context.snapshot.1 ∧
      emitter.offer now time emission =
        (some record, emitter.tried now emission, journal) ∧
      journal.echoes = record.echo?.toList := by
  have made : emitter.record? now time emission =
      some (emitter.record time emission emission.context.event context.snapshot.1) := by
    rw [record?, admitted]
    rfl
  have quiet : (emitter.limiter.offer now emission.key emission.context).2.2.echoes = [] :=
    Journal.echoes_of_lines (emitter.limiter.lines_offer (emission.attempt now))
  refine ⟨_, _, made, rfl, (offer_eq ..).trans (by rw [made]), ?_⟩
  rw [admitted, Journal.echoes_append, Journal.echoes_append, quiet,
    Journal.echoes_of_lines context.snapshot_lines, Record.echoes_echo?]
  rfl

/-- What the text of a field is made of. -/
def given (emitter : Emitter) (emission : Emission) : Record.Field → Option String
  | .event => emission.context.event
  | .correlationId => emission.correlation.correlationId
  | .requestId => emission.correlation.requestId
  | .sessionId => some emitter.identity.sessionId
  | .userId => some emitter.identity.userId
  | .environment => some emitter.settings.environment
  | .source => some emitter.settings.source
  | .appVersion => some emitter.settings.appVersion

/-- What an emission that is not suppressed makes of what it was given. -/
structure Reports (emitter : Emitter) (time : Instant) (emission : Emission)
    (verdict : Limiter.Verdict) (record : Record) : Prop where
  severity : record.severity = emission.severity
  message : Text.Fits Record.messageLimit emission.message record.message
  time : record.time = time
  text : ∀ field text, record.text? field = some text →
    ∃ whole, given emitter emission field = some whole ∧ Text.Fits field.limit whole text
  /-- A field has no text if it was given none, or a blank one. -/
  absent : ∀ field, record.text? field = none ↔
    ∀ whole, given emitter emission field = some whole → Text.AllBlank whole.toList
  /-- The values of the context, and those of a marker on top if the limiter makes it one. -/
  data : record.data = verdict.data emitter.limiter.window emission.context.snapshot.1

/-- What can be seen of an emission, by the verdict on it. -/
structure Emitted (emitter : Emitter) (channel : Option σ) (now : Span) (time : Instant)
    (emission : Emission) : Prop where
  suppressed : emitter.verdict now emission = .suppress →
    emitter.record? now time emission = none ∧
    ∃ held entry, emitter.limiter.held? emission.key = some held ∧
      emitter.emit send? channel now time emission =
        (.suppressed,
          { emitter with limiter := { emitter.limiter with
              entries := Limiter.without emission.key.text emitter.limiter.entries ++
                [(emission.key.text, entry)] } },
          channel, [])
  admitted : emitter.verdict now emission ≠ .suppress →
    ∃ record journal, emitter.record? now time emission = some record ∧
      Reports emitter time emission (emitter.verdict now emission) record ∧
      emitter.emit send? channel now time emission =
        ((post send? channel (some record)).1, emitter.tried now emission,
          (post send? channel (some record)).2, journal) ∧
      journal.echoes =
        if emission.severity = .warn ∨ emission.severity = .error then
          [.echo record.severity record.message ((record.text? .event).getD "")
            ((record.data.map fun data => (Json.object data).render).getD "")]
        else []

theorem reports_record (emitter : Emitter) (time : Instant) {emission : Emission}
    (distinct : emission.context.Distinct) {context : Context} {verdict : Limiter.Verdict}
    (applied : verdict.apply emitter.limiter.window emission.context = some context) :
    Reports emitter time emission verdict
      (emitter.record time emission emission.context.event context.snapshot.1) := by
  have data : (emitter.record time emission emission.context.event context.snapshot.1).data =
      verdict.data emitter.limiter.window emission.context.snapshot.1 := by
    cases verdict with
    | suppress => contradiction
    | pass =>
      cases applied
      rfl
    | mark suppressed =>
      cases applied
      exact Limiter.snapshot_annotate distinct suppressed _
  have kept (field : Record.Field) :
      (emitter.record time emission emission.context.event context.snapshot.1).text? field =
        field.keep (given emitter emission field) := by
    cases field <;> simp [Emitter.record, Record.withText, Record.withData, Record.ofMessage, given]
  refine ⟨rfl, Text.fits_iff.mpr rfl, rfl, ?_, ?_, data⟩
  · intro field text has
    rw [kept] at has
    exact Record.Field.fits_of_keep has
  · intro field
    rw [kept]
    exact Record.Field.keep_eq_none_iff

theorem echo?_eq (record : Record) :
    record.echo?.toList =
      if record.severity = .warn ∨ record.severity = .error then
        [.echo record.severity record.message ((record.text? .event).getD "")
          ((record.data.map fun data => (Json.object data).render).getD "")]
      else [] := by
  unfold Record.echo?
  cases record.severity <;> rfl

theorem emit_of_suppress {channel : Option σ} (time : Instant)
    (suppressed : emitter.verdict now emission = .suppress) :
    emitter.emit send? channel now time emission =
      (.suppressed, emitter.tried now emission, channel, []) := by
  rw [emit, (offer_of_suppress time suppressed).2]

theorem emit_of_offer {channel : Option σ} {record : Record} {next : Emitter} {journal : Journal}
    (offered : emitter.offer now time emission = (some record, next, journal)) :
    ∃ more, more.echoes = [] ∧ emitter.emit send? channel now time emission =
      ((post send? channel (some record)).1, next, (post send? channel (some record)).2,
        journal ++ more) := by
  rw [emit, offered, post]
  cases channel with
  | none => exact ⟨[], rfl, by simp⟩
  | some open_ =>
    cases sent : send? open_ (.enqueue record) with
    | none => exact ⟨[stoppedLine], rfl, by simp [sent]⟩
    | some next => exact ⟨[], rfl, by simp [sent]⟩

theorem emitted (emitter : Emitter) (channel : Option σ) (now : Span) (time : Instant)
    {emission : Emission} (distinct : emission.context.Distinct) :
    Emitted send? emitter channel now time emission := by
  refine ⟨fun suppressed => ?_, fun passed => ?_⟩
  · obtain ⟨held, entry, found, offered⟩ := limiter_of_suppress suppressed
    have taken : emitter.tried now emission =
        { emitter with
          limiter := (emitter.limiter.offer now emission.key emission.context).2.1 } := rfl
    refine ⟨(offer_of_suppress time suppressed).1, held, entry, found, ?_⟩
    rw [emit_of_suppress send? time suppressed, taken, offered]
  · obtain ⟨context, applied⟩ := Option.ne_none_iff_exists'.mp
      (mt Limiter.Verdict.apply_eq_none.mp passed)
    have answer := (emitter.answer_eq now emission).trans applied
    obtain ⟨record, journal, made, rfl, offered, echoes⟩ := offer_of_admitted time answer
    obtain ⟨more, quiet, result⟩ := emit_of_offer send? offered
    refine ⟨_, _, made, reports_record emitter time distinct applied, result, ?_⟩
    rw [Journal.echoes_append, echoes, quiet, List.append_nil, echo?_eq]
    rfl

/-- What an emission does to the channel and shows, whatever the verdict on it. -/
theorem exists_emit (emitter : Emitter) (channel : Option σ) (now : Span) (time : Instant)
    (emission : Emission) :
    ∃ journal, emitter.emit send? channel now time emission =
        ((post send? channel (emitter.record? now time emission)).1,
          emitter.tried now emission,
          (post send? channel (emitter.record? now time emission)).2, journal) ∧
      journal.echoes = ((emitter.record? now time emission).bind Record.echo?).toList := by
  cases answer : emitter.limiter.answer (emission.attempt now) with
  | none =>
    have suppressed : emitter.verdict now emission = .suppress := by
      rw [answer_eq] at answer
      exact Limiter.Verdict.apply_eq_none.mp answer
    refine ⟨[], ?_, ?_⟩
    · rw [(offer_of_suppress time suppressed).1]
      exact emit_of_suppress send? time suppressed
    · rw [(offer_of_suppress time suppressed).1]
      rfl
  | some context =>
    obtain ⟨record, journal, made, -, offered, echoes⟩ := offer_of_admitted time answer
    obtain ⟨more, quiet, result⟩ := emit_of_offer send? offered
    refine ⟨journal ++ more, ?_, ?_⟩
    · rw [made]
      exact result
    · rw [made, Journal.echoes_append, echoes, quiet, List.append_nil]
      rfl

end Emitter

end FeedMonitor
