import FeedMonitor.Proofs.Dedup.Recency

/-!
Keys of a limiter do not interact, unless one is forgotten.

An attempt is answered as by a limiter that knows of the changes of settings and of the attempts at
the same key, as far back as the key has been tracked.
-/

namespace FeedMonitor.Limiter

def Call.isSetting : Call → Bool
  | .attempt _ => false
  | .reconfigure _ _ => true

/-- Whether a call may matter to a key: attempts at other keys do not. -/
def Call.concerns (key : Key) : Call → Bool
  | .attempt tried => tried.key == key
  | .reconfigure _ _ => true

/-- A limiter after one more call, and which calls then matter to a key. The attempts before the key
was forgotten do not. -/
def retain (key : Key) (state : Limiter × List Call) (call : Call) : Limiter × List Call :=
  (state.1.take call,
    if (state.1.take call).tracks key then state.2 ++ [call].filter (Call.concerns key)
    else (state.2 ++ [call]).filter Call.isSetting)

/-- The calls that matter to a key: all changes of settings, and the attempts at the key since it
was last forgotten. -/
def own (limiter : Limiter) (key : Key) (calls : List Call) : List Call :=
  (calls.foldl (retain key) (limiter, [])).2

theorem own_concat (limiter : Limiter) (key : Key) (calls : List Call) (call : Call) :
    limiter.own key (calls ++ [call]) =
      if (limiter.after (calls ++ [call])).tracks key then
        limiter.own key calls ++ [call].filter (Call.concerns key)
      else (limiter.own key calls ++ [call]).filter Call.isSetting := by
  have reached (calls : List Call) (state : Limiter × List Call) :
      (calls.foldl (retain key) state).1 = state.1.after calls := by
    induction calls generalizing state with
    | nil => rfl
    | cons call rest ih => exact ih _
  rw [own, List.foldl_append, after_concat, ← reached calls (limiter, [])]
  rfl

theorem concerns_of_mem_own (limiter : Limiter) (key : Key) (calls : List Call) :
    ∀ call ∈ limiter.own key calls, call.concerns key := by
  induction calls using List.reverseRecOn with
  | nil => intro call member; contradiction
  | append_singleton calls last ih =>
    intro call member
    rw [own_concat] at member
    split at member
    · rcases List.mem_append.mp member with before | here
      · exact ih call before
      · exact (List.mem_filter.mp here).2
    · have setting := (List.mem_filter.mp member).2
      cases call with
      | attempt => contradiction
      | reconfigure => rfl

theorem filter_own (limiter : Limiter) (key : Key) (calls : List Call) :
    (limiter.own key calls).filter Call.isSetting = calls.filter Call.isSetting := by
  induction calls using List.reverseRecOn with
  | nil => rfl
  | append_singleton calls last ih =>
    rw [own_concat]
    split
    · rw [List.filter_append, List.filter_append, ih]
      congr 1
      cases last with
      | attempt attempt =>
        cases same : attempt.key == key <;> simp [Call.concerns, Call.isSetting, same]
      | reconfigure => rfl
    · rw [List.filter_filter, List.filter_append, List.filter_append, ← ih]
      simp

/-! ### Settings -/

theorem settings_take_congr {limiter other : Limiter} (window : limiter.window = other.window)
    (threshold : limiter.threshold = other.threshold) (call : Call) :
    (limiter.take call).window = (other.take call).window ∧
      (limiter.take call).threshold = (other.take call).threshold := by
  cases call with
  | attempt attempt =>
    obtain ⟨same, same', -⟩ := limiter.settings_take_attempt attempt
    obtain ⟨still, still', -⟩ := other.settings_take_attempt attempt
    exact ⟨by rw [same, still, window], by rw [same', still', threshold]⟩
  | reconfigure => exact ⟨rfl, rfl⟩

/-- The settings are those of the last change. -/
theorem settings_after_filter (limiter : Limiter) (calls : List Call) :
    (limiter.after (calls.filter Call.isSetting)).window = (limiter.after calls).window ∧
      (limiter.after (calls.filter Call.isSetting)).threshold =
        (limiter.after calls).threshold := by
  induction calls using List.reverseRecOn with
  | nil => exact ⟨rfl, rfl⟩
  | append_singleton calls call ih =>
    rw [List.filter_append, after_append, after_concat]
    cases call with
    | attempt attempt =>
      obtain ⟨same, same', -⟩ := (limiter.after calls).settings_take_attempt attempt
      exact ⟨ih.1.trans same.symm, ih.2.trans same'.symm⟩
    | reconfigure => exact ⟨rfl, rfl⟩

theorem entries_after_filter (limiter : Limiter) (calls : List Call) :
    (limiter.after (calls.filter Call.isSetting)).entries = limiter.entries := by
  induction calls using List.reverseRecOn with
  | nil => rfl
  | append_singleton calls call ih =>
    rw [List.filter_append, after_append]
    cases call with
    | attempt => exact ih
    | reconfigure => exact ih

/-! ### One key -/

/-- Two limiters that make no difference to a key. -/
structure Alike (key : Key) (limiter alone : Limiter) : Prop where
  window : limiter.window = alone.window
  threshold : limiter.threshold = alone.threshold
  entry : limiter.held? key = alone.held? key

namespace Alike

variable {key : Key} {limiter alone : Limiter}

theorem answer {attempt : Attempt} (alike : Alike attempt.key limiter alone) :
    limiter.answer attempt = alone.answer attempt := by
  rw [answer_eq, answer_eq, alike.window, alike.threshold, alike.entry]

theorem attempt {attempt : Attempt} (alike : Alike attempt.key limiter alone) :
    Alike attempt.key (limiter.take (.attempt attempt)) (alone.take (.attempt attempt)) := by
  obtain ⟨window, threshold⟩ :=
    settings_take_congr alike.window alike.threshold (.attempt attempt)
  refine ⟨window, threshold, ?_⟩
  rw [held?_take_self, held?_take_self, alike.window, alike.threshold, alike.entry]

theorem other (alike : Alike key limiter alone) (distinct : limiter.texts.Nodup)
    {attempt : Attempt} (differ : key ≠ attempt.key)
    (kept : (limiter.take (.attempt attempt)).tracks key) :
    Alike key (limiter.take (.attempt attempt)) alone := by
  obtain ⟨window, threshold, -⟩ := limiter.settings_take_attempt attempt
  exact ⟨window.trans alike.window, threshold.trans alike.threshold,
    (held?_take_other distinct differ kept).trans alike.entry⟩

theorem reconfigure (alike : Alike key limiter alone) (window : Span) (threshold : Nat) :
    Alike key (limiter.take (.reconfigure window threshold))
      (alone.take (.reconfigure window threshold)) := ⟨rfl, rfl, alike.entry⟩

theorem of_after (window : Span) (threshold mostKeys : Nat) (key : Key) (calls : List Call) :
    Alike key ((ofSettings window threshold mostKeys).after calls)
      ((ofSettings window threshold 1).after
        ((ofSettings window threshold mostKeys).own key calls)) := by
  induction calls using List.reverseRecOn with
  | nil => exact ⟨rfl, rfl, rfl⟩
  | append_singleton calls call ih =>
    have orderly := (Recent.of_after window threshold mostKeys calls).orderly
    rw [own_concat, after_concat]
    split
    · rename_i kept
      rw [after_append]
      cases call with
      | reconfigure window threshold => exact ih.reconfigure window threshold
      | attempt attempt =>
        by_cases same : attempt.key = key
        · subst same
          rw [List.filter_cons_of_pos (by simp [Call.concerns])]
          exact ih.attempt
        · rw [List.filter_cons_of_neg (by simpa [Call.concerns] using same)]
          exact ih.other orderly.distinct (Ne.symm same) kept
    · rename_i forgotten
      obtain ⟨window', threshold'⟩ := settings_take_congr ih.window ih.threshold call
      obtain ⟨last, last'⟩ := (ofSettings window threshold 1).settings_after_filter
        ((ofSettings window threshold mostKeys).own key calls ++ [call])
      rw [after_concat] at last last'
      refine ⟨window'.trans last.symm, threshold'.trans last'.symm, ?_⟩
      rw [Option.not_isSome_iff_eq_none.mp forgotten, held?, entries_after_filter]
      rfl

end Alike

/-- How keys live side by side in a limiter that has had some calls. -/
structure Isolated (window : Span) (threshold mostKeys : Nat) (calls : List Call) : Prop where
  /-- An attempt is answered as by a limiter of its key alone. -/
  answers : ∀ attempt, ((ofSettings window threshold mostKeys).after calls).answer attempt =
    ((ofSettings window threshold 1).after
      ((ofSettings window threshold mostKeys).own attempt.key calls)).answer attempt
  /-- That limiter has had no attempts at other keys and all changes of settings. -/
  own : ∀ key, (∀ call ∈ (ofSettings window threshold mostKeys).own key calls, call.concerns key) ∧
    ((ofSettings window threshold mostKeys).own key calls).filter Call.isSetting =
      calls.filter Call.isSetting
  /-- A key is tracked until as many others have been attempted as may be held. -/
  tracked : ∀ key, ((ofSettings window threshold mostKeys).after calls).tracks key ↔
    key ∈ attempted calls ∧ othersSince key calls < max mostKeys 1
  /-- The call that brings the last of these others makes it forgotten, and no other call does. -/
  forgotten : ∀ key call, ((ofSettings window threshold mostKeys).after calls).tracks key →
    (¬((ofSettings window threshold mostKeys).after (calls ++ [call])).tracks key ↔
      othersSince key (calls ++ [call]) = max mostKeys 1)
  /-- Emissions of one key agree in their severity and in their event or message. -/
  shared : ∀ severity severity' message message' event event',
    (Key.of severity message event).text = (Key.of severity' message' event').text →
      severity = severity' ∧ event.getD message = event'.getD message'

theorem keys_isolated (window : Span) (threshold mostKeys : Nat) (calls : List Call) :
    Isolated window threshold mostKeys calls := by
  have tracked (calls : List Call) (key : Key) :
      ((ofSettings window threshold mostKeys).after calls).tracks key ↔
        key ∈ attempted calls ∧ othersSince key calls < max mostKeys 1 := by
    have recent := (Recent.of_after window threshold mostKeys calls).tracks_iff key
    rwa [mostKeys_after] at recent
  refine ⟨fun attempt => (Alike.of_after window threshold mostKeys attempt.key calls).answer,
    fun key => ⟨concerns_of_mem_own _ key calls, filter_own ..⟩, tracked calls,
    fun key call held => ?_, ?_⟩
  · obtain ⟨member, few⟩ := (tracked calls key).mp held
    have member : key ∈ attempted (calls ++ [call]) := by
      rw [attempted, List.flatMap_append]
      exact List.mem_append_left _ member
    have most := othersSince_concat_le key calls call
    rw [tracked]
    simp only [member, true_and]
    omega
  · intro severity severity' message message' event event' same
    exact Key.mk.inj (Key.text_injective same)

end FeedMonitor.Limiter
