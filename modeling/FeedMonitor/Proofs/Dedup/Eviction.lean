import FeedMonitor.Proofs.Dedup.Recency
import Mathlib.Data.Finset.Card

/-!
The order in which a limiter holds its keys.

A limiter holds the keys that were attempted last, as many as it may, in the order of their last
attempts and with the times of these. So the key that it forgets is the one attempted longest ago,
and the one with the least time if the clock never goes back.
-/

namespace FeedMonitor.Limiter

/-! ### The last of each item -/

section List

variable {α : Type} [DecidableEq α]

/-- Of two distinct items of a list the one that stands behind the last place of the other comes
second. -/
theorem pairwise_dedup (list : List α) :
    list.dedup.Pairwise fun item other => other ∈ list.rtakeWhile (· != item) := by
  induction list using List.reverseRecOn with
  | nil => exact List.Pairwise.nil
  | append_singleton list last ih =>
    have apart (item : α) (member : item ∈ list.dedup.filter (· != last)) :
        (list ++ [last]).rtakeWhile (· != item) = list.rtakeWhile (· != item) ++ [last] := by
      refine List.rtakeWhile_concat_pos _ _ _ ?_
      rw [bne_comm]
      exact (List.mem_filter.mp member).2
    rw [dedup_concat, List.pairwise_append]
    refine ⟨?_, List.pairwise_singleton _ _, ?_⟩
    · refine (ih.filter _).imp_of_mem fun {item other} member _ behind => ?_
      rw [apart item member]
      exact List.mem_append_left _ behind
    · intro item member other here
      rw [apart item member]
      exact List.mem_append_right _ here

end List

/-! ### Keys -/

/-- The keys attempted last, in the order of their last attempts. -/
def latest (count : Nat) (calls : List Call) : List Key := (attempted calls).dedup.rtake count

/-- The keys that have been attempted since the last attempt at a key. -/
def attemptedSince (key : Key) (calls : List Call) : List Key :=
  (attempted calls).rtakeWhile (· != key)

theorem pairwise_latest (count : Nat) (calls : List Call) :
    (latest count calls).Pairwise fun key other => other ∈ attemptedSince key calls :=
  (pairwise_dedup (attempted calls)).sublist (List.drop_sublist ..)

theorem attemptedSince_of_old {count : Nat} {calls : List Call} {key other : Key}
    (member : key ∈ attempted calls) (old : key ∉ latest count calls)
    (recent : other ∈ latest count calls) : other ∈ attemptedSince key calls := by
  have split : (attempted calls).dedup.take ((attempted calls).dedup.length - count) ++
      latest count calls = (attempted calls).dedup := List.take_append_drop ..
  have order := pairwise_dedup (attempted calls)
  rw [← split, List.pairwise_append] at order
  have inside := List.mem_dedup.mpr member
  rw [← split] at inside
  exact order.2.2 key ((List.mem_append.mp inside).resolve_right old) other recent

theorem length_latest (count : Nat) (calls : List Call) :
    (latest count calls).length = min count (attempted calls).toFinset.card := by
  rw [latest, List.rtake, List.length_drop, List.card_toFinset]
  omega

theorem texts_after (window : Span) (threshold mostKeys : Nat) (calls : List Call) :
    ((ofSettings window threshold mostKeys).after calls).texts =
      (latest (max mostKeys 1) calls).map Key.text := by
  have room : ((ofSettings window threshold mostKeys).after calls).mostKeys = max mostKeys 1 :=
    mostKeys_after ..
  rw [(Recent.of_after window threshold mostKeys calls).texts, room,
    List.dedup_map_of_injective Key.text_injective, latest, List.rtake, List.rtake,
    List.length_map, List.map_drop]

/-! ### Times -/

def Call.times : Call → List (Key × Span)
  | .attempt tried => [(tried.key, tried.now)]
  | .reconfigure _ _ => []

/-- The times of the attempts of some calls. -/
def times (calls : List Call) : List Nat := (calls.flatMap Call.times).map fun (_, now) => now.nanos

theorem times_concat (calls : List Call) (call : Call) :
    times (calls ++ [call]) = times calls ++ call.times.map fun (_, now) => now.nanos := by
  rw [times, List.flatMap_append, List.map_append, List.flatMap_singleton, times]

/-- When a key was attempted last. -/
def lastTime? (key : Key) (calls : List Call) : Option Span :=
  (calls.flatMap Call.times).reverse.lookup key

theorem lastTime?_concat (key : Key) (calls : List Call) (call : Call) :
    lastTime? key (calls ++ [call]) = (call.times.lookup key).or (lastTime? key calls) := by
  unfold lastTime?
  rw [List.flatMap_append, List.reverse_append, List.lookup_append, List.flatMap_singleton]
  cases call <;> rfl

theorem lastSeen_meet (window : Span) (threshold : Nat) (held : Option Entry) (now : Span) :
    (meet window threshold held now).2.lastSeen = now := by
  cases held with
  | none => rfl
  | some entry =>
    rw [meet, Option.elim_some, judge]
    split
    · dsimp only
      split <;> rfl
    · rfl

def Timed (calls : List Call) (limiter : Limiter) : Prop :=
  ∀ key entry, limiter.held? key = some entry → lastTime? key calls = some entry.lastSeen

theorem Timed.take {calls : List Call} {limiter : Limiter} (timed : Timed calls limiter)
    (distinct : limiter.texts.Nodup) (call : Call) :
    Timed (calls ++ [call]) (limiter.take call) := by
  intro key entry held
  rw [lastTime?_concat]
  cases call with
  | reconfigure window threshold => exact timed key entry held
  | attempt attempt =>
    by_cases same : key = attempt.key
    · subst same
      rw [held?_take_self, Option.some_inj] at held
      subst held
      rw [lastSeen_meet]
      simp [Call.times]
    · have kept : (limiter.take (.attempt attempt)).tracks key := by rw [tracks, held]; rfl
      rw [held?_take_other distinct same kept] at held
      have other : [(attempt.key, attempt.now)].lookup key = none := by
        simpa [List.lookup_eq_none_iff] using same
      rw [Call.times, other, Option.none_or]
      exact timed key entry held

theorem Timed.of_after (window : Span) (threshold mostKeys : Nat) (calls : List Call) :
    Timed calls ((ofSettings window threshold mostKeys).after calls) := by
  induction calls using List.reverseRecOn with
  | nil =>
    intro key entry held
    contradiction
  | append_singleton calls call ih =>
    rw [after_concat]
    exact ih.take (Recent.of_after window threshold mostKeys calls).orderly.distinct call

/-! ### Forgetting -/

theorem entries_take_attempt (limiter : Limiter) (attempt : Attempt) :
    ∃ rest entry, (limiter.take (.attempt attempt)).entries = rest ++ [(attempt.key.text, entry)] ∧
      rest.Sublist limiter.entries ∧ entry.lastSeen = attempt.now := by
  rw [take_attempt]
  cases held : limiter.entries.lookup attempt.key.text with
  | none =>
    rw [attempt_of_untracked held]
    exact ⟨_, _, rfl, limiter.sublist_makeRoom, rfl⟩
  | some entry =>
    rw [attempt_of_tracked held]
    exact ⟨_, _, rfl, List.filter_sublist, lastSeen_meet _ _ (some entry) _⟩

/-- An attempt makes a key forgotten if it needs the place, and then the one in front. -/
theorem forgotten_attempt (limiter : Limiter) (now : Span) (text : String) :
    (limiter.attempt now text).2.2 =
      if text ∈ limiter.texts ∨ limiter.tracked < limiter.mostKeys then none
      else limiter.texts.head? := by
  cases held : limiter.entries.lookup text with
  | none =>
    have absent : text ∉ limiter.texts := by simp [mem_texts_iff, held]
    rw [attempt_of_untracked held]
    simp only [makeRoom, absent, false_or]
    by_cases full : limiter.mostKeys ≤ limiter.tracked
    · rw [if_pos full, if_neg (Nat.not_lt.mpr full), texts, List.head?_map]
    · rw [if_neg full, if_pos (Nat.lt_of_not_le full)]
  | some entry =>
    have present : text ∈ limiter.texts := by simp [mem_texts_iff, held]
    rw [attempt_of_tracked held, if_pos (.inl present)]

theorem lastSeen_mem_times (window : Span) (threshold mostKeys : Nat) (calls : List Call) :
    ∀ entry ∈ ((ofSettings window threshold mostKeys).after calls).entries,
      entry.2.lastSeen.nanos ∈ times calls := by
  induction calls using List.reverseRecOn with
  | nil =>
    intro entry member
    contradiction
  | append_singleton calls call ih =>
    intro entry member
    rw [after_concat] at member
    rw [times_concat, List.mem_append]
    cases call with
    | reconfigure => exact .inl (ih entry member)
    | attempt attempt =>
      obtain ⟨rest, last, entries, older, now⟩ := entries_take_attempt _ attempt
      rw [entries] at member
      rcases List.mem_append.mp member with before | here
      · exact .inl (ih entry (older.subset before))
      · rw [List.mem_singleton.mp here, now]
        exact .inr (List.mem_singleton.mpr rfl)

theorem sorted_after (window : Span) (threshold mostKeys : Nat) {calls : List Call}
    (forward : (times calls).Pairwise (· ≤ ·)) :
    ((ofSettings window threshold mostKeys).after calls).entries.Pairwise fun entry other =>
      entry.2.lastSeen.nanos ≤ other.2.lastSeen.nanos := by
  induction calls using List.reverseRecOn with
  | nil => exact List.Pairwise.nil
  | append_singleton calls call ih =>
    rw [times_concat, List.pairwise_append] at forward
    obtain ⟨before, -, behind⟩ := forward
    rw [after_concat]
    cases call with
    | reconfigure => exact ih before
    | attempt attempt =>
      obtain ⟨rest, last, entries, older, now⟩ := entries_take_attempt
        ((ofSettings window threshold mostKeys).after calls) attempt
      rw [entries, List.pairwise_append]
      refine ⟨(ih before).sublist older, List.pairwise_singleton _ _, ?_⟩
      -- What stays was seen at a time of an earlier call, and none of these is later than this one.
      intro entry member other here
      rw [List.mem_singleton.mp here, now]
      have seen := lastSeen_mem_times window threshold mostKeys calls entry (older.subset member)
      exact behind _ seen _ (List.mem_singleton.mpr rfl)

theorem least_of_sorted {limiter : Limiter} {gone : String}
    (sorted : limiter.entries.Pairwise fun entry other =>
      entry.2.lastSeen.nanos ≤ other.2.lastSeen.nanos)
    (front : limiter.texts.head? = some gone) :
    ∃ entry, limiter.entries.lookup gone = some entry ∧
      ∀ other ∈ limiter.entries, entry.lastSeen.nanos ≤ other.2.lastSeen.nanos := by
  unfold Limiter.texts at front
  cases entries : limiter.entries with
  | nil => simp [entries] at front
  | cons first rest =>
    rw [entries, List.map_cons, List.head?_cons, Option.some_inj] at front
    rw [entries, List.pairwise_cons] at sorted
    subst front
    refine ⟨first.2, List.lookup_cons_self, fun other member => ?_⟩
    rcases List.mem_cons.mp member with rfl | behind
    · exact le_rfl
    · exact sorted.1 other behind

/-! ### The law -/

/-- A limiter that holds the keys of some calls that were attempted last. -/
structure LatestHeld (most : Nat) (calls : List Call) (limiter : Limiter) : Prop where
  /-- The key attempted longest ago comes first. -/
  texts : limiter.texts = (latest most calls).map Key.text
  ordered : (latest most calls).Pairwise fun key other => other ∈ attemptedSince key calls
  /-- Any other key was attempted last before all of these. -/
  others : ∀ key ∈ attempted calls, key ∉ latest most calls →
    ∀ other ∈ latest most calls, other ∈ attemptedSince key calls
  tracked : limiter.tracked = min most (attempted calls).toFinset.card
  bounded : limiter.tracked ≤ most
  distinct : limiter.texts.Nodup
  lastSeen : ∀ key entry, limiter.held? key = some entry →
    lastTime? key calls = some entry.lastSeen
  /-- A new key that finds no place takes that of the key in front, and no other key loses its. -/
  forgotten : ∀ now text, (limiter.attempt now text).2.2 =
    if text ∈ limiter.texts ∨ limiter.tracked < most then none else limiter.texts.head?
  /-- Unless the clock went back, none was seen before the key that is forgotten. -/
  least : (times calls).Pairwise (· ≤ ·) → ∀ now text gone,
    (limiter.attempt now text).2.2 = some gone →
      ∃ entry, limiter.entries.lookup gone = some entry ∧
        ∀ other ∈ limiter.entries, entry.lastSeen.nanos ≤ other.2.lastSeen.nanos

theorem latest_held (window : Span) (threshold mostKeys : Nat) (calls : List Call) :
    LatestHeld (max mostKeys 1) calls ((ofSettings window threshold mostKeys).after calls) := by
  have room : ((ofSettings window threshold mostKeys).after calls).mostKeys = max mostKeys 1 :=
    mostKeys_after ..
  have texts := texts_after window threshold mostKeys calls
  have tracked : ((ofSettings window threshold mostKeys).after calls).tracked =
      min (max mostKeys 1) (attempted calls).toFinset.card := by
    rw [← length_latest, ← List.length_map Key.text, ← texts, Limiter.texts, List.length_map,
      Limiter.tracked]
  refine ⟨texts, pairwise_latest .., fun key member old other recent =>
    attemptedSince_of_old member old recent, tracked, tracked ▸ Nat.min_le_left ..,
    (Recent.of_after window threshold mostKeys calls).orderly.distinct,
    Timed.of_after window threshold mostKeys calls, ?_, ?_⟩
  · intro now text
    rw [forgotten_attempt, room]
  · intro forward now text gone forgets
    rw [forgotten_attempt] at forgets
    split at forgets
    · contradiction
    · exact least_of_sorted (sorted_after window threshold mostKeys forward) forgets

end FeedMonitor.Limiter
