import FeedMonitor.Proofs.Dedup.Burst
import FeedMonitor.Proofs.Emission.Context

/-!
What a marker says.

A key is held with the number of its attempts that have been suppressed since one was admitted,
however the settings and the times have changed in between. A marker carries that number and the
window in force, and nothing else of its context changes.
-/

namespace FeedMonitor.Limiter

/-! ### Markers in contexts -/

theorem entries_annotate (context : Context) (suppressed : Nat) (window : Span) :
    (annotate context suppressed window).entries =
      Context.putEntry windowName (.ofInt (min window.millis mostMillis : Nat))
        (Context.putEntry countName (.ofInt suppressed) context.entries) := by
  rw [annotate, Context.entries_insert (by decide), Context.entries_insert (by decide)]

theorem filter_putEntry {name : String} {kept : String × Context.Value → Bool}
    (left : ∀ value, kept (name, value) = false) (value : Context.Value)
    (entries : List (String × Context.Value)) :
    (Context.putEntry name value entries).filter kept = entries.filter kept := by
  induction entries with
  | nil => simp [Context.putEntry, left]
  | cons first rest ih =>
    obtain ⟨other, held⟩ := first
    rw [Context.putEntry]
    split
    · rename_i same
      rw [List.filter_cons_of_neg (by simp [left]), List.filter_cons_of_neg (by simp [same, left])]
    · rw [List.filter_cons, List.filter_cons, ih]

/-- Whether an entry has neither of the two names of a marker. -/
def isPlain (entry : String × Context.Value) : Bool := entry.1 != countName && entry.1 != windowName

/-- A context that says how many emissions it stands for, and is otherwise another one. -/
structure Marks (context : Context) (suppressed : Nat) (window : Span) (marked : Context) :
    Prop where
  event : marked.event = context.event
  /-- The other entries stay, in their order. -/
  plain : marked.entries.filter isPlain = context.entries.filter isPlain
  count : marked.get? countName = some (.ofInt suppressed)
  window : marked.get? windowName = some (.ofInt (min window.millis mostMillis : Nat))
  /-- Entries with the two names are replaced. -/
  distinct : context.Distinct → marked.Distinct

theorem marks_annotate (context : Context) (suppressed : Nat) (window : Span) :
    Marks context suppressed window (annotate context suppressed window) where
  event := rfl
  plain := by
    rw [entries_annotate, filter_putEntry fun _ => by simp [isPlain],
      filter_putEntry fun _ => by simp [isPlain]]
  count := (get?_annotate ..).trans ((if_neg (by decide)).trans (if_pos rfl))
  window := (get?_annotate ..).trans (if_pos rfl)
  distinct held := (held.insert ..).insert ..

/-! ### Settings -/

def Call.settings? : Call → Option (Span × Nat)
  | .attempt _ => none
  | .reconfigure window threshold => some (window, threshold)

/-- The window and the threshold that were given last. -/
def settingsAfter (window : Span) (threshold : Nat) (calls : List Call) : Span × Nat :=
  (calls.filterMap Call.settings?).getLast?.getD (window, threshold)

theorem settingsAfter_concat (window : Span) (threshold : Nat) (calls : List Call) (call : Call) :
    settingsAfter window threshold (calls ++ [call]) =
      call.settings?.getD (settingsAfter window threshold calls) := by
  unfold settingsAfter
  rw [List.filterMap_append]
  cases call with
  | attempt attempt => simp [Call.settings?]
  | reconfigure window threshold => simp [Call.settings?]

/-- A limiter has the settings that were given last, where a threshold of zero acts as one. -/
theorem settings_after (window : Span) (threshold mostKeys : Nat) (calls : List Call) :
    ((ofSettings window threshold mostKeys).after calls).window =
        (settingsAfter window threshold calls).1 ∧
      ((ofSettings window threshold mostKeys).after calls).threshold =
        max (settingsAfter window threshold calls).2 1 := by
  induction calls using List.reverseRecOn with
  | nil => exact ⟨rfl, rfl⟩
  | append_singleton calls call ih =>
    rw [after_concat, settingsAfter_concat]
    cases call with
    | attempt attempt =>
      obtain ⟨same, same', -⟩ := settings_take_attempt
        ((ofSettings window threshold mostKeys).after calls) attempt
      exact ⟨same.trans ih.1, same'.trans ih.2⟩
    | reconfigure window threshold => exact ⟨rfl, rfl⟩

/-- Thresholds have thirty-two bits, like the counts. -/
theorem threshold_le (window : Span) (threshold : UInt32) (mostKeys : Nat) {calls : List Call}
    (small : ∀ window threshold, .reconfigure window threshold ∈ calls →
      threshold ≤ mostCollisions) :
    ((ofSettings window threshold.toNat mostKeys).after calls).threshold ≤ mostCollisions := by
  rw [(settings_after ..).2, settingsAfter]
  have least : 1 ≤ mostCollisions := by decide
  refine max_le ?_ least
  cases given : (calls.filterMap Call.settings?).getLast? with
  | none =>
    have below := threshold.toNat_lt
    simp only [Option.getD_none, mostCollisions]
    omega
  | some settings =>
    obtain ⟨call, member, set⟩ := List.mem_filterMap.mp (List.mem_of_getLast? given)
    cases call with
    | attempt attempt => contradiction
    | reconfigure window threshold =>
      obtain rfl := Option.some.inj set
      exact small window threshold member

/-! ### Suppressed attempts -/

/-- What becomes of a call, if it is an attempt at a key. -/
def outcome (limiter : Limiter) (key : Key) : Call → List (Option Context)
  | .attempt tried => if tried.key = key then [limiter.answer tried] else []
  | .reconfigure _ _ => []

/-- What becomes of the attempts at a key, in order. -/
def outcomes (limiter : Limiter) (key : Key) : List Call → List (Option Context)
  | [] => []
  | call :: rest => limiter.outcome key call ++ (limiter.take call).outcomes key rest

/-- How many attempts at a key have been suppressed since one was admitted. -/
def suppressedSince (limiter : Limiter) (key : Key) (calls : List Call) : Nat :=
  ((limiter.outcomes key calls).rtakeWhile Option.isNone).length

theorem outcomes_concat (limiter : Limiter) (key : Key) (calls : List Call) (call : Call) :
    limiter.outcomes key (calls ++ [call]) =
      limiter.outcomes key calls ++ (limiter.after calls).outcome key call := by
  induction calls generalizing limiter with
  | nil => exact List.append_nil _
  | cons first rest ih =>
    rw [List.cons_append, outcomes, ih, outcomes, List.append_assoc]
    rfl

theorem suppressedSince_of_other {limiter : Limiter} {key : Key} {calls : List Call} {call : Call}
    (other : key ∉ call.keys) :
    limiter.suppressedSince key (calls ++ [call]) = limiter.suppressedSince key calls := by
  have none : (limiter.after calls).outcome key call = [] := by
    cases call with
    | attempt attempt => exact if_neg fun same => other (by simp [Call.keys, same])
    | reconfigure => rfl
  rw [suppressedSince, outcomes_concat, none, List.append_nil, suppressedSince]

theorem suppressedSince_attempt (limiter : Limiter) (calls : List Call) (attempt : Attempt) :
    limiter.suppressedSince attempt.key (calls ++ [.attempt attempt]) =
      if (limiter.after calls).answer attempt = none then
        limiter.suppressedSince attempt.key calls + 1
      else 0 := by
  have here : (limiter.after calls).outcome attempt.key (.attempt attempt) =
      [(limiter.after calls).answer attempt] := if_pos rfl
  rw [suppressedSince, outcomes_concat, here]
  cases answer : (limiter.after calls).answer attempt with
  | none =>
    rw [List.rtakeWhile_concat_pos _ _ _ rfl, List.length_append, if_pos rfl]
    rfl
  | some context =>
    rw [List.rtakeWhile_concat_neg _ _ _ (by simp), if_neg (by simp)]
    rfl

/-! ### Counts -/

/-- What the threshold makes of a collision, as long as one more can be counted. -/
theorem judge_of_collision {window now : Span} {entry : Entry}
    (near : now.nanos - entry.lastSeen.nanos < window.nanos)
    (room : entry.collisions < mostCollisions) (threshold : Nat) :
    judge window threshold entry now =
      if entry.collisions + 1 < threshold then (.suppress, ⟨now, entry.collisions + 1⟩)
      else (.mark entry.collisions, ⟨now, 0⟩) := by
  have most : min (entry.collisions + 1) mostCollisions = entry.collisions + 1 :=
    Nat.min_eq_left room
  simp only [judge, if_pos near, most, Nat.add_sub_cancel]

/-- A limiter that holds of a key how many attempts at it have been suppressed. -/
def Counted (start : Limiter) (calls : List Call) : Prop :=
  ∀ key entry, (start.after calls).held? key = some entry →
    entry.collisions = start.suppressedSince key calls ∧ entry.collisions < mostCollisions

namespace Counted

variable {start : Limiter} {calls : List Call}

/-- The threshold cuts the count off before it is full. -/
theorem attempt (counted : Counted start calls)
    (small : (start.after calls).threshold ≤ mostCollisions) (attempt : Attempt) {entry : Entry}
    (held : ((start.after calls).take (.attempt attempt)).held? attempt.key = some entry) :
    entry.collisions = start.suppressedSince attempt.key (calls ++ [.attempt attempt]) ∧
      entry.collisions < mostCollisions := by
  rw [suppressedSince_attempt, answer_eq]
  rw [held?_take_self, Option.some_inj] at held
  have empty : 0 < mostCollisions := by decide
  cases before : (start.after calls).held? attempt.key with
  | none =>
    rw [before] at held
    subst held
    exact ⟨rfl, empty⟩
  | some last =>
    obtain ⟨same, room⟩ := counted attempt.key last before
    rw [before] at held
    by_cases near : attempt.now.nanos - last.lastSeen.nanos < (start.after calls).window.nanos
    · rw [meet, Option.elim_some, judge_of_collision near room] at held ⊢
      split at held
      · rename_i few
        subst held
        rw [same] at few ⊢
        rw [if_pos few]
        exact ⟨(if_pos rfl).symm, few.trans_le small⟩
      · rename_i full
        subst held
        rw [if_neg full]
        exact ⟨rfl, empty⟩
    · rw [meet_of_gap near] at held ⊢
      subst held
      exact ⟨rfl, empty⟩

theorem of_after (window : Span) (threshold : UInt32) (mostKeys : Nat)
    (small : ∀ window threshold, .reconfigure window threshold ∈ calls →
      threshold ≤ mostCollisions) :
    Counted (ofSettings window threshold.toNat mostKeys) calls := by
  induction calls using List.reverseRecOn with
  | nil =>
    intro key entry held
    contradiction
  | append_singleton calls call ih =>
    have counted := ih fun window threshold member =>
      small window threshold (List.mem_append_left _ member)
    intro key entry held
    rw [after_concat] at held
    by_cases other : key ∈ call.keys
    · cases call with
      | reconfigure window threshold => contradiction
      | attempt attempt =>
        obtain rfl := List.mem_singleton.mp other
        have bound := threshold_le window threshold mostKeys fun window threshold member =>
          small window threshold (List.mem_append_left _ member)
        exact counted.attempt bound attempt held
    · rw [suppressedSince_of_other other]
      refine counted key entry ?_
      cases call with
      | reconfigure window threshold => exact held
      | attempt attempt =>
        have differ : key ≠ attempt.key := fun same => other (List.mem_singleton.mpr same)
        have distinct := (Recent.of_after window threshold.toNat mostKeys calls).orderly.distinct
        have kept : ((ofSettings window threshold.toNat mostKeys).after calls
            |>.take (.attempt attempt)).tracks key := Option.isSome_of_eq_some held
        rw [← held?_take_other distinct differ kept]
        exact held

end Counted

/-! ### Decisions -/

/-- What is to become of an attempt, by what is held of its key and by how many attempts at the key
have been suppressed since one was admitted. -/
structure Decision (window : Span) (threshold : Nat) (held : Option Entry) (suppressed : Nat)
    (attempt : Attempt) (answer : Option Context) : Prop where
  /-- An attempt within the window after the last one is suppressed, or it is admitted with what it
  stands for. -/
  collision : ∀ entry ∈ held, attempt.now.nanos - entry.lastSeen.nanos < window.nanos →
    if suppressed + 1 < threshold then answer = none
    else ∃ marked ∈ answer, Marks attempt.context suppressed window marked
  /-- Any other attempt is admitted as it is. -/
  apart : (∀ entry ∈ held, ¬attempt.now.nanos - entry.lastSeen.nanos < window.nanos) →
    answer = some attempt.context
  /-- A threshold of one suppresses nothing. -/
  single : threshold = 1 → answer.isSome

theorem decision_of_held {window : Span} {threshold : Nat} {held : Option Entry} {suppressed : Nat}
    (counted : ∀ entry ∈ held, entry.collisions = suppressed ∧ entry.collisions < mostCollisions)
    (attempt : Attempt) :
    Decision window threshold held suppressed attempt
      ((meet window threshold held attempt.now).1.apply window attempt.context) := by
  cases held with
  | none => exact ⟨by simp, fun _ => rfl, fun _ => rfl⟩
  | some entry =>
    obtain ⟨rfl, room⟩ := counted entry rfl
    by_cases near : attempt.now.nanos - entry.lastSeen.nanos < window.nanos
    · rw [meet, Option.elim_some, judge_of_collision near room]
      refine ⟨?_, fun away => absurd near (away entry rfl), ?_⟩
      · intro other member _
        obtain rfl := Option.some.inj member
        split
        · rfl
        · exact ⟨_, rfl, marks_annotate ..⟩
      · intro one
        have many : ¬entry.collisions + 1 < threshold := by omega
        rw [if_neg many]
        rfl
    · rw [meet_of_gap near]
      refine ⟨?_, fun _ => rfl, fun _ => rfl⟩
      intro other member close
      obtain rfl := Option.some.inj member
      exact absurd close near

/-- What some calls leave of each key, and what is to become of one more attempt. -/
structure MarkersCount (start : Limiter) (window : Span) (threshold : Nat) (calls : List Call) :
    Prop where
  counted : ∀ key entry, (start.after calls).held? key = some entry →
    entry.collisions = start.suppressedSince key calls
  /-- One more can always be counted, and then taken off again. -/
  uncut : ∀ key entry, (start.after calls).held? key = some entry →
    min (entry.collisions + 1) mostCollisions = entry.collisions + 1
  /-- The settings that decide are those that were given last. -/
  decided : ∀ attempt : Attempt,
    Decision (settingsAfter window threshold calls).1
      (max (settingsAfter window threshold calls).2 1) ((start.after calls).held? attempt.key)
      (start.suppressedSince attempt.key calls) attempt ((start.after calls).answer attempt)

theorem markers_count (window : Span) (threshold : UInt32) (mostKeys : Nat) (calls : List Call)
    (small : ∀ window threshold, .reconfigure window threshold ∈ calls →
      threshold ≤ mostCollisions) :
    MarkersCount (ofSettings window threshold.toNat mostKeys) window threshold.toNat calls := by
  have counted := Counted.of_after window threshold mostKeys small
  refine ⟨fun key entry held => (counted key entry held).1,
    fun key entry held => Nat.min_eq_left (counted key entry held).2, fun attempt => ?_⟩
  obtain ⟨same, same'⟩ := settings_after window threshold.toNat mostKeys calls
  rw [answer_eq, ← same, ← same']
  exact decision_of_held (fun entry held => counted attempt.key entry held) attempt

/-- A burst whose threshold is raised and lowered and whose window is stretched, while another key
is attempted and the clock goes back. -/
def unsettled : List Call :=
  [.attempt ⟨⟨20⟩, ⟨.info, "a"⟩, .empty⟩, .attempt ⟨⟨24⟩, ⟨.info, "a"⟩, .empty⟩,
    .reconfigure ⟨10⟩ 9, .attempt ⟨⟨12⟩, ⟨.info, "a"⟩, .empty⟩,
    .attempt ⟨⟨13⟩, ⟨.warn, "a"⟩, .empty⟩, .attempt ⟨⟨21⟩, ⟨.info, "a"⟩, .empty⟩,
    .reconfigure ⟨5000000⟩ 2]

theorem markers_count_unsettled :
    (∀ window threshold, .reconfigure window threshold ∈ unsettled →
        threshold ≤ mostCollisions) ∧
      (ofSettings ⟨10⟩ 3 2).suppressedSince ⟨.info, "a"⟩ unsettled = 3 ∧
      settingsAfter ⟨10⟩ 3 unsettled = (⟨5000000⟩, 2) ∧
      MarkersCount (ofSettings ⟨10⟩ 3 2) ⟨10⟩ 3 unsettled := by
  have small : ∀ window threshold, .reconfigure window threshold ∈ unsettled →
      threshold ≤ mostCollisions := by
    intro window threshold member
    simp only [unsettled, List.mem_cons, Call.reconfigure.injEq, reduceCtorEq, List.not_mem_nil,
      false_or, or_false] at member
    rw [mostCollisions]
    omega
  exact ⟨small, by decide +kernel, by decide +kernel, markers_count ⟨10⟩ 3 2 unsettled small⟩

end FeedMonitor.Limiter
