import FeedMonitor.Proofs.Emission.Offer
import Mathlib.Data.List.ReduceOption

/-!
What an emitter does over any number of emissions.

Which of them have records, and what these say, depends on the limiter and on what each emission was
given. The channel only gets the records, each once and in order.
-/

namespace FeedMonitor.Emitter

inductive Call
  | emit (now : Span) (time : Instant) (emission : Emission)
  | setDedup (window : Span) (threshold : Nat)

/-- Whether the contexts of a call are such as a caller can have. -/
def Call.Built : Call → Prop
  | .emit _ _ emission => emission.context.Built
  | .setDedup _ _ => True

/-- What the limiter sees of a call. -/
def Call.seen : Call → Limiter.Call
  | .emit now _ emission => .attempt (emission.attempt now)
  | .setDedup window threshold => .reconfigure window threshold

/-- The emitter after some calls: its limiter has seen them, and nothing else has changed. -/
def after (emitter : Emitter) (calls : List Call) : Emitter :=
  { emitter with limiter := emitter.limiter.after (calls.map Call.seen) }

/-- The records of the emissions among some calls. -/
def offered (emitter : Emitter) : List Call → List (Option Record)
  | [] => []
  | .emit now time emission :: rest =>
    emitter.record? now time emission ::
      (emitter.tried now emission).offered rest
  | .setDedup window threshold :: rest => (emitter.setDedup window threshold).offered rest

variable {σ : Type} (send? : σ → Delivery.Command → Option σ)

/-- One attempt for each record that there is, in order. -/
def postAll (channel : Option σ) : List (Option Record) → List Outcome × Option σ
  | [] => ([], channel)
  | record :: rest =>
    ((post send? channel record).1 :: (postAll (post send? channel record).2 rest).1,
      (postAll (post send? channel record).2 rest).2)

structure Run (σ : Type) where
  outcomes : List Outcome
  emitter : Emitter
  channel : Option σ
  journal : Journal

/-- What some calls do, one after the other. -/
def run (emitter : Emitter) (channel : Option σ) : List Call → Run σ
  | [] => ⟨[], emitter, channel, []⟩
  | .emit now time emission :: rest =>
    let (outcome, next, left, journal) := emitter.emit send? channel now time emission
    let later := run next left rest
    { later with outcomes := outcome :: later.outcomes, journal := journal ++ later.journal }
  | .setDedup window threshold :: rest => run (emitter.setDedup window threshold) channel rest

theorem run_spec (emitter : Emitter) (channel : Option σ) (calls : List Call) :
    (run send? emitter channel calls).emitter = emitter.after calls ∧
      ((run send? emitter channel calls).outcomes, (run send? emitter channel calls).channel) =
        postAll send? channel (emitter.offered calls) ∧
      (run send? emitter channel calls).journal.echoes =
        (emitter.offered calls).reduceOption.filterMap Record.echo? := by
  induction calls generalizing emitter channel with
  | nil => exact ⟨rfl, rfl, rfl⟩
  | cons call rest ih =>
    cases call with
    | setDedup window threshold => exact ih (emitter.setDedup window threshold) channel
    | emit now time emission =>
      obtain ⟨journal, emitted, echoes⟩ := exists_emit send? emitter channel now time emission
      obtain ⟨last, posted, echoes'⟩ := ih (emitter.tried now emission)
        (post send? channel (emitter.record? now time emission)).2
      have split : run send? emitter channel (.emit now time emission :: rest) =
          { run send? (emitter.tried now emission)
              (post send? channel (emitter.record? now time emission)).2 rest with
            outcomes := (post send? channel (emitter.record? now time emission)).1 ::
              (run send? (emitter.tried now emission)
                (post send? channel (emitter.record? now time emission)).2 rest).outcomes
            journal := journal ++ (run send? (emitter.tried now emission)
              (post send? channel (emitter.record? now time emission)).2 rest).journal } := by
        rw [run, emitted]
      refine ⟨?_, ?_, ?_⟩
      · rw [split]
        exact last
      · rw [split]
        simp only [offered, postAll, ← posted]
      · rw [split]
        simp only [Journal.echoes_append, echoes, echoes', offered]
        cases emitter.record? now time emission with
        | none => rfl
        | some record => cases shown : record.echo? <;> simp [shown]

/-- The outcome of an emission by its record, if all records have the same one. -/
def outcomeOf (outcome : Outcome) : Option Record → Outcome
  | none => .suppressed
  | some _ => outcome

/-- A delivery system that has not stopped gets each record as one command. -/
theorem postAll_of_taking {system : Delivery.System} (taking : system.phase ≠ .stopped)
    (records : List (Option Record)) :
    postAll Delivery.System.send? (some system) records =
      (records.map (outcomeOf .queued),
        some { system with inbox := system.inbox ++ records.reduceOption.map .enqueue }) := by
  induction records generalizing system with
  | nil => simp [postAll, List.reduceOption]
  | cons record rest ih =>
    cases record with
    | none => simp [postAll, post, ih taking, outcomeOf]
    | some record =>
      have later : ({ system with
          inbox := system.inbox ++ [.enqueue record] } : Delivery.System).phase ≠ .stopped := taking
      simp [postAll, post, Delivery.System.send?, taking, ih later, outcomeOf]

theorem postAll_of_shut {channel : Option σ}
    (shut : ∀ open_ record, channel = some open_ → send? open_ (.enqueue record) = none)
    (records : List (Option Record)) :
    postAll send? channel records = (records.map (outcomeOf .localOnly), channel) := by
  have refused (record : Record) :
      channel.bind (fun open_ => send? open_ (.enqueue record)) = none :=
    Option.bind_eq_none_iff.mpr fun open_ same => shut open_ record same
  induction records with
  | nil => rfl
  | cons record rest ih =>
    cases record with
    | none => simp [postAll, post, ih, outcomeOf]
    | some record => simp [postAll, post, refused, ih, outcomeOf]

/-- All that can be seen of some calls. -/
structure Observed (emitter : Emitter) (channel : Option σ) (calls : List Call) : Prop where
  /-- The emitter has changed as its limiter has, which has seen each call once. -/
  last : (run send? emitter channel calls).emitter = emitter.after calls
  each : ∀ before now time emission behind, calls = before ++ .emit now time emission :: behind →
    Emitted send? (emitter.after before) (run send? emitter channel before).channel now time emission
  /-- Each record goes to the channel once, in the order of the emissions. -/
  posted : ((run send? emitter channel calls).outcomes, (run send? emitter channel calls).channel) =
    postAll send? channel (emitter.offered calls)
  /-- A delivery system that has not stopped gets one command for each record. -/
  queued : ∀ system : Delivery.System, system.phase ≠ .stopped →
    (run Delivery.System.send? emitter (some system) calls).outcomes =
        (emitter.offered calls).map (outcomeOf .queued) ∧
      (run Delivery.System.send? emitter (some system) calls).channel =
        some { system with
          inbox := system.inbox ++ (emitter.offered calls).reduceOption.map .enqueue }
  /-- What is shown locally is said of the records only. -/
  echoes : (run send? emitter channel calls).journal.echoes =
    (emitter.offered calls).reduceOption.filterMap Record.echo?
  /-- Where there is no channel, or one that takes no more, all records stay where they are. -/
  kept : (∀ open_ record, channel = some open_ → send? open_ (.enqueue record) = none) →
    (run send? emitter channel calls).outcomes =
        (emitter.offered calls).map (outcomeOf .localOnly) ∧
      (run send? emitter channel calls).channel = channel

theorem emissions_observed (emitter : Emitter) (channel : Option σ) {calls : List Call}
    (built : ∀ call ∈ calls, call.Built) : Observed send? emitter channel calls := by
  obtain ⟨last, posted, echoes⟩ := run_spec send? emitter channel calls
  refine ⟨last, ?_, posted, fun system taking => ?_, echoes, fun shut => ?_⟩
  · rintro before now time emission behind rfl
    have context : emission.context.Built := built (.emit now time emission) (by simp)
    exact emitted send? _ _ now time context.distinct
  · obtain ⟨-, sent, -⟩ := run_spec Delivery.System.send? emitter (some system) calls
    rw [postAll_of_taking taking] at sent
    exact Prod.mk.inj sent
  · rw [postAll_of_shut send? shut] at posted
    exact Prod.mk.inj posted

/-- Three warnings, of which the second is suppressed and the third stands for it as well. -/
def warnings : List Call :=
  [.emit ⟨0⟩ ⟨0, 0⟩ ⟨.warn, " late ", Context.empty.insert "lag" (.ofInt 7), .none⟩,
    .setDedup ⟨10000000⟩ 2, .emit ⟨3⟩ ⟨3, 0⟩ ⟨.warn, " late ", .empty, .none⟩,
    .emit ⟨5⟩ ⟨5, 0⟩ ⟨.warn, " late ", Context.empty.insert "lag" (.ofInt 9), .none⟩]

def quiet : Emitter := ⟨default, ⟨"session", "user", none⟩, .ofSettings ⟨10⟩ 5 4⟩

/-- A delivery system that nothing was sent to. -/
def idle : Delivery.System := .ofService (.ofQueue (.ofCapacity 2 .dropNewest) 1 ⟨5⟩)

theorem emissions_observed_warnings :
    (∀ call ∈ warnings, call.Built) ∧
      (run Delivery.System.send? quiet (some idle) warnings).outcomes =
        [.queued, .suppressed, .queued] ∧
      (quiet.offered warnings).map (Option.map Record.message) =
        [some "late", none, some "late"] ∧
      (run Delivery.System.send? quiet (some idle) warnings).channel.map Delivery.System.inbox =
        some ((quiet.offered warnings).reduceOption.map .enqueue) ∧
      (run Delivery.System.send? quiet (some idle) warnings).journal.echoes =
        [.echo .warn "late" "" "\x7b\"lag\":7\x7d",
          .echo .warn "late" ""
            "\x7b\"lag\":9,\"suppressed_count\":1,\"suppressed_window_ms\":10\x7d"] ∧
      Observed Delivery.System.send? quiet (some idle) warnings := by
  have built : ∀ call ∈ warnings, call.Built := by
    intro call member
    simp only [warnings, List.mem_cons, List.not_mem_nil, or_false] at member
    rcases member with rfl | rfl | rfl | rfl
    · exact Context.Built.empty.insert "lag" (.ofInt 7)
    · trivial
    · exact Context.Built.empty
    · exact Context.Built.empty.insert "lag" (.ofInt 9)
  have observed := emissions_observed Delivery.System.send? quiet (some idle) built
  have queued := (observed.queued idle (by decide)).2
  refine ⟨built, by decide +kernel, by decide +kernel, ?_, ?_, observed⟩
  · rw [queued]
    rfl
  · rw [observed.echoes]
    decide +kernel

end FeedMonitor.Emitter
