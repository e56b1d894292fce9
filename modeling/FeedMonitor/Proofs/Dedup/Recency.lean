import FeedMonitor.Proofs.Dedup.Call

/-!
Which keys a limiter tracks.

They are those attempted last, as many of them as it may hold, in the order of their last attempts.
So a key is forgotten when as many other keys have been attempted since its last attempt.
-/

namespace FeedMonitor.Limiter

/-! ### The last of a list -/

section List

variable {α : Type}

theorem rtake_of_length_le {list : List α} {count : Nat} (few : list.length ≤ count) :
    list.rtake count = list := by
  rw [List.rtake, Nat.sub_eq_zero_of_le few, List.drop_zero]

theorem rtake_append_of_le {front back : List α} {count : Nat} (few : count ≤ back.length) :
    (front ++ back).rtake count = back.rtake count := by
  have skipped : (front ++ back).length - count = front.length + (back.length - count) := by
    rw [List.length_append]
    omega
  rw [List.rtake, skipped, ← List.drop_drop, List.drop_left, List.rtake]

variable [DecidableEq α]

theorem dedup_concat (list : List α) (last : α) :
    (list ++ [last]).dedup = list.dedup.filter (· != last) ++ [last] := by
  induction list with
  | nil => rfl
  | cons first rest ih =>
    by_cases again : first ∈ rest
    · rw [List.cons_append, List.dedup_cons_of_mem (List.mem_append_left _ again), ih,
        List.dedup_cons_of_mem again]
    · by_cases same : first = last
      · subst same
        rw [List.cons_append, List.dedup_cons_of_mem (by simp), ih,
          List.dedup_cons_of_notMem again, List.filter_cons_of_neg (by simp)]
      · rw [List.cons_append, List.dedup_cons_of_notMem (by simp [again, same]), ih,
          List.dedup_cons_of_notMem again, List.filter_cons_of_pos (by simpa using same),
          List.cons_append]

theorem length_filter_ne {list : List α} (distinct : list.Nodup) (item : α) :
    list.length ≤ (list.filter (· != item)).length + 1 := by
  rw [← distinct.erase_eq_filter]
  have least := List.le_length_erase (l := list) (a := item)
  omega

theorem rtake_filter_ne {list : List α} (distinct : list.Nodup) (item : α) (count : Nat) :
    (list.filter (· != item)).rtake count =
      ((list.rtake (count + 1)).filter (· != item)).rtake count := by
  by_cases few : list.length ≤ count + 1
  · rw [rtake_of_length_le few]
  · have enough := length_filter_ne ((List.drop_sublist (list.length - (count + 1)) list).nodup
      distinct) item
    rw [List.length_drop] at enough
    conv_lhs => rw [← List.take_append_drop (list.length - (count + 1)) list, List.filter_append]
    exact rtake_append_of_le (by omega)

theorem split_last {list : List α} {item : α} (member : item ∈ list) :
    ∃ front, list = front ++ item :: list.rtakeWhile (· != item) := by
  induction list using List.reverseRecOn with
  | nil => contradiction
  | append_singleton list last ih =>
    by_cases same : last = item
    · exact ⟨list, by rw [List.rtakeWhile_concat_neg _ _ _ (by simp [same]), same]⟩
    · have before : item ∈ list := by
        rcases List.mem_append.mp member with before | here
        · exact before
        · exact absurd (List.mem_singleton.mp here).symm same
      obtain ⟨front, split⟩ := ih before
      refine ⟨front, ?_⟩
      rw [List.rtakeWhile_concat_pos _ _ _ (by simpa using same), ← List.cons_append,
        ← List.append_assoc, ← split]

/-- An item is among the last distinct ones if few others stand behind its last place. -/
theorem mem_rtake_dedup {list : List α} {item : α} {count : Nat} :
    item ∈ list.dedup.rtake count ↔
      item ∈ list ∧ (list.rtakeWhile (· != item)).dedup.length < count := by
  by_cases member : item ∈ list
  · obtain ⟨front, split⟩ := split_last member
    have absent : item ∉ (list.rtakeWhile (· != item)).dedup := fun inside => by
      simpa using List.mem_rtakeWhile_imp (List.mem_dedup.mp inside)
    obtain ⟨rest, -, joined⟩ := List.sublist_suffix_of_union front
      (item :: (list.rtakeWhile (· != item)).dedup)
    have whole : list.dedup = rest ++ item :: (list.rtakeWhile (· != item)).dedup := by
      conv_lhs => rw [split]
      rw [List.dedup_append, List.dedup_cons_of_notMem (mt List.mem_dedup.mpr absent), joined]
    rw [whole]
    constructor
    · intro inside
      refine ⟨member, Nat.lt_of_not_le fun full => ?_⟩
      rw [List.append_cons, rtake_append_of_le full] at inside
      exact absent (List.drop_subset _ _ inside)
    · rintro ⟨-, room⟩
      have kept : (rest ++ item :: (list.rtakeWhile (· != item)).dedup).length - count ≤
          rest.length := by
        rw [List.length_append, List.length_cons]
        omega
      rw [List.rtake, List.drop_append_of_le_length kept]
      simp
  · have outside : item ∉ list.dedup.rtake count := fun inside =>
      member (List.mem_dedup.mp (List.drop_subset _ _ inside))
    simp [member, outside]

end List

/-! ### Texts -/

/-- A limiter that holds no text twice and no more of them than it may. -/
structure Orderly (limiter : Limiter) : Prop where
  positive : 0 < limiter.mostKeys
  distinct : limiter.texts.Nodup
  bounded : limiter.texts.length ≤ limiter.mostKeys

/-- The key that is attempted comes last, and the one attempted longest ago makes room for it. -/
theorem texts_take_attempt {limiter : Limiter} (orderly : limiter.Orderly) (attempt : Attempt) :
    (limiter.take (.attempt attempt)).texts =
      (limiter.texts.filter (· != attempt.key.text)).rtake (limiter.mostKeys - 1) ++
        [attempt.key.text] := by
  have positive := orderly.positive
  have bounded := orderly.bounded
  rw [take_attempt]
  cases held : limiter.entries.lookup attempt.key.text with
  | none =>
    have others : limiter.texts.filter (· != attempt.key.text) = limiter.texts := by
      refine List.filter_eq_self.mpr fun text member => ?_
      obtain ⟨entry, there, rfl⟩ := List.mem_map.mp member
      rw [bne_comm]
      exact List.lookup_eq_none_iff.mp held entry there
    have room : limiter.makeRoom.1.map Prod.fst = limiter.texts.rtake (limiter.mostKeys - 1) := by
      unfold makeRoom tracked
      unfold texts at bounded ⊢
      rw [List.length_map] at bounded
      rw [List.rtake, List.length_map]
      split
      · rw [List.map_drop]
        congr 1
        omega
      · rw [Nat.sub_eq_zero_of_le (by omega), List.drop_zero]
    rw [attempt_of_untracked held, others, ← room, texts, List.map_append]
    rfl
  | some entry =>
    have found : attempt.key.text ∈ limiter.texts := by
      rw [mem_texts_iff, held]
      rfl
    have fewer : (limiter.texts.filter (· != attempt.key.text)).length ≤ limiter.mostKeys - 1 := by
      rw [← orderly.distinct.erase_eq_filter, List.length_erase_of_mem found]
      omega
    rw [attempt_of_tracked held, rtake_of_length_le fewer, texts, texts, List.map_append, without,
      List.filter_map]
    rfl

/-! ### Recency -/

/-- The keys of some calls, in the order of the attempts. -/
def attempted (calls : List Call) : List Key := calls.flatMap Call.keys

/-- How many other keys have been attempted since the last attempt at a key. -/
def othersSince (key : Key) (calls : List Call) : Nat :=
  ((attempted calls).rtakeWhile (· != key)).dedup.length

/-- A limiter that tracks the keys of some calls that were attempted last. -/
structure Recent (calls : List Call) (limiter : Limiter) : Prop where
  positive : 0 < limiter.mostKeys
  texts : limiter.texts = ((attempted calls).map Key.text).dedup.rtake limiter.mostKeys

namespace Recent

variable {calls : List Call} {limiter : Limiter}

theorem orderly (recent : Recent calls limiter) : limiter.Orderly where
  positive := recent.positive
  distinct := by
    rw [recent.texts]
    exact (List.drop_sublist _ _).nodup (List.nodup_dedup _)
  bounded := by
    rw [recent.texts, List.rtake, List.length_drop]
    omega

theorem take (recent : Recent calls limiter) (call : Call) :
    Recent (calls ++ [call]) (limiter.take call) := by
  cases call with
  | reconfigure window threshold =>
    refine ⟨recent.positive, ?_⟩
    have same : attempted (calls ++ [.reconfigure window threshold]) = attempted calls := by
      simp [attempted, Call.keys]
    rw [same]
    exact recent.texts
  | attempt attempt =>
    obtain ⟨-, -, room⟩ := limiter.settings_take_attempt attempt
    refine ⟨room ▸ recent.positive, ?_⟩
    obtain ⟨count, most⟩ : ∃ count, limiter.mostKeys = count + 1 :=
      ⟨limiter.mostKeys - 1, by have positive := recent.positive; omega⟩
    have more : (attempted (calls ++ [.attempt attempt])).map Key.text =
        (attempted calls).map Key.text ++ [attempt.key.text] := by
      simp [attempted, Call.keys]
    rw [room, more, dedup_concat, texts_take_attempt recent.orderly, recent.texts, most,
      Nat.add_sub_cancel, List.rtake_concat_succ, rtake_filter_ne (List.nodup_dedup _)]

theorem of_after (window : Span) (threshold mostKeys : Nat) (calls : List Call) :
    Recent calls ((ofSettings window threshold mostKeys).after calls) := by
  induction calls using List.reverseRecOn with
  | nil => exact ⟨Nat.le_max_right .., (List.rtake_nil _).symm⟩
  | append_singleton calls call ih =>
    rw [after_concat]
    exact ih.take call

theorem tracks_iff (recent : Recent calls limiter) (key : Key) :
    limiter.tracks key ↔ key ∈ attempted calls ∧ othersSince key calls < limiter.mostKeys := by
  have held : limiter.tracks key ↔ key.text ∈ limiter.texts := mem_texts_iff.symm
  rw [held, recent.texts, List.dedup_map_of_injective Key.text_injective, List.rtake,
    List.length_map, ← List.map_drop, List.mem_map_of_injective Key.text_injective]
  exact mem_rtake_dedup

end Recent

theorem mostKeys_after (limiter : Limiter) (calls : List Call) :
    (limiter.after calls).mostKeys = limiter.mostKeys := by
  induction calls using List.reverseRecOn with
  | nil => rfl
  | append_singleton calls call ih =>
    rw [after_concat, ← ih]
    cases call with
    | reconfigure window threshold => rfl
    | attempt attempt => exact (settings_take_attempt ..).2.2

/-- One call brings at most one other key. -/
theorem othersSince_concat_le (key : Key) (calls : List Call) (call : Call) :
    othersSince key (calls ++ [call]) ≤ othersSince key calls + 1 := by
  unfold othersSince attempted
  rw [List.flatMap_append, List.flatMap_singleton]
  cases call with
  | reconfigure window threshold =>
    rw [Call.keys, List.append_nil]
    exact Nat.le_succ _
  | attempt attempt =>
    rw [Call.keys, List.rtakeWhile_concat]
    split
    · rw [dedup_concat, List.length_append]
      exact Nat.succ_le_succ (List.length_filter_le ..)
    · exact Nat.zero_le _

end FeedMonitor.Limiter
