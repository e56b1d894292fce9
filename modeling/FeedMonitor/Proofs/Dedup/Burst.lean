import FeedMonitor.Proofs.Dedup.Recency
import Mathlib.Data.List.SplitBy

/-!
What becomes of the attempts at a key.

Attempts that follow each other within the window make a burst. The first of a burst passes, and
then one in so many as the threshold says, each of these with the number of those suppressed before
it.
-/

namespace FeedMonitor.Limiter

/-- Whether no call makes a limiter forget a key. -/
def keeps (limiter : Limiter) (key : Key) : List Call → Bool
  | [] => true
  | call :: rest =>
    (!limiter.tracks key || (limiter.take call).tracks key) && (limiter.take call).keeps key rest

/-- What becomes of the attempts at one key. -/
def answersTo (limiter : Limiter) (key : Key) : List Attempt → List (Option Context)
  | [] => []
  | tried :: rest =>
    (if tried.key = key then [limiter.answer tried] else []) ++
      (limiter.take (.attempt tried)).answersTo key rest

/-- Attempts, cut before each one that does not come within the window after the last. -/
def bursts (window : Span) (attempts : List Attempt) : List (List Attempt) :=
  attempts.splitBy fun last next => next.now.nanos - last.now.nanos < window.nanos

/-- What is to become of the attempt in some place of a burst. The first has place zero. -/
def foldAt (window : Span) (threshold place : Nat) (attempt : Attempt) : Option Context :=
  if place % threshold = 0 then
    some (if place = 0 then attempt.context
      else annotate attempt.context (threshold - 1) window)
  else none

def fold (window : Span) (threshold : Nat) (burst : List Attempt) : List (Option Context) :=
  burst.mapIdx (foldAt window threshold)

theorem fold_concat (window : Span) (threshold : Nat) (burst : List Attempt) (next : Attempt) :
    fold window threshold (burst ++ [next]) =
      fold window threshold burst ++ [foldAt window threshold burst.length next] :=
  List.mapIdx_concat

/-! ### One key -/

/-- What becomes of attempts at one key, by what is held of it. -/
def replies (window : Span) (threshold : Nat) (held : Option Entry) :
    List Attempt → List (Option Context)
  | [] => []
  | tried :: rest =>
    (meet window threshold held tried.now).1.apply window tried.context ::
      replies window threshold (some (meet window threshold held tried.now).2) rest

/-- What is held of a key after attempts at it. -/
def heldAfter (window : Span) (threshold : Nat) (held : Option Entry) (attempts : List Attempt) :
    Option Entry :=
  attempts.foldl (fun held tried => some (meet window threshold held tried.now).2) held

theorem replies_append (window : Span) (threshold : Nat) (held : Option Entry)
    (attempts more : List Attempt) :
    replies window threshold held (attempts ++ more) =
      replies window threshold held attempts ++
        replies window threshold (heldAfter window threshold held attempts) more := by
  induction attempts generalizing held with
  | nil => rfl
  | cons tried rest ih => simp only [List.cons_append, replies, ih, heldAfter, List.foldl_cons]

theorem heldAfter_append (window : Span) (threshold : Nat) (held : Option Entry)
    (attempts more : List Attempt) :
    heldAfter window threshold held (attempts ++ more) =
      heldAfter window threshold (heldAfter window threshold held attempts) more :=
  List.foldl_append

/-- A key that is kept is answered as if there were no others. -/
theorem answersTo_eq {calls : List Call} {limiter : Limiter} (recent : Recent calls limiter)
    (key : Key) (attempts : List Attempt) (kept : limiter.keeps key (attempts.map .attempt)) :
    limiter.answersTo key attempts =
      replies limiter.window limiter.threshold (limiter.held? key)
        (attempts.filter (·.key == key)) := by
  induction attempts generalizing calls limiter with
  | nil => rfl
  | cons tried rest ih =>
    simp only [List.map_cons, keeps, Bool.and_eq_true, Bool.or_eq_true, Bool.not_eq_true'] at kept
    obtain ⟨here, later⟩ := kept
    obtain ⟨window, threshold, -⟩ := limiter.settings_take_attempt tried
    rw [answersTo, ih (recent.take (.attempt tried)) later, window, threshold]
    by_cases same : tried.key = key
    · subst same
      rw [if_pos rfl, List.filter_cons_of_pos (by simp), replies, held?_take_self, answer_eq]
      rfl
    · rw [if_neg same, List.filter_cons_of_neg (by simpa using same), List.nil_append]
      congr 1
      cases next : (limiter.take (.attempt tried)).tracks key with
      | true => exact held?_take_other recent.orderly.distinct (Ne.symm same) next
      | false =>
        rw [next] at here
        have before : limiter.tracks key = false := here.resolve_right (by simp)
        rw [Option.isNone_iff_eq_none.mp (Option.isSome_eq_false_iff.mp next),
          Option.isNone_iff_eq_none.mp (Option.isSome_eq_false_iff.mp before)]

/-! ### One burst -/

section Burst

variable {window : Span} {threshold : Nat}

/-- An attempt that does not come within the window after the last one begins anew. -/
theorem meet_of_gap {entry : Entry} {now : Span}
    (gap : ¬now.nanos - entry.lastSeen.nanos < window.nanos) :
    meet window threshold (some entry) now = (.pass, ⟨now, 0⟩) := by
  rw [meet, Option.elim_some, judge, if_neg gap]

/-- The attempt in some place after the first of its burst is a collision, which the threshold
counts around. -/
theorem meet_of_collision (positive : 0 < threshold) (small : threshold ≤ mostCollisions)
    {last now : Span} (near : now.nanos - last.nanos < window.nanos) (place : Nat) :
    meet window threshold (some ⟨last, place % threshold⟩) now =
      (if (place + 1) % threshold = 0 then .mark (threshold - 1) else .suppress,
        ⟨now, (place + 1) % threshold⟩) := by
  have below := Nat.mod_lt place positive
  have turn : (place + 1) % threshold =
      if place % threshold + 1 < threshold then place % threshold + 1 else 0 := by
    rw [← Nat.mod_add_mod]
    split
    · exact Nat.mod_eq_of_lt ‹_›
    · rw [show place % threshold + 1 = threshold by omega, Nat.mod_self]
  rw [meet, Option.elim_some, judge, if_pos near,
    Nat.min_eq_left (by omega : place % threshold + 1 ≤ mostCollisions), turn]
  split
  · simp [*]
  · have full : place % threshold + 1 = threshold := by omega
    simp [full]

/-- A burst is folded, and leaves of its key when it was last attempted and its place in turn. -/
theorem replies_burst (positive : 0 < threshold) (small : threshold ≤ mostCollisions)
    {held : Option Entry} {burst : List Attempt} (nonempty : burst ≠ [])
    (near : burst.IsChain fun last next => next.now.nanos - last.now.nanos < window.nanos)
    (fresh : ∀ first ∈ burst.head?,
      meet window threshold held first.now = (.pass, ⟨first.now, 0⟩)) :
    replies window threshold held burst = fold window threshold burst ∧
      ∀ last ∈ burst.getLast?, heldAfter window threshold held burst =
        some ⟨last.now, (burst.length - 1) % threshold⟩ := by
  induction burst using List.reverseRecOn with
  | nil => contradiction
  | append_singleton burst next ih =>
    cases before : burst.getLast? with
    | none =>
      -- The first of the burst.
      obtain rfl := List.getLast?_eq_none_iff.mp before
      have first := fresh next (by simp)
      constructor
      · simp [replies, first, Verdict.apply, fold, foldAt]
      · simp [heldAfter, first]
    | some last =>
      have begun : burst ≠ [] := fun none => by simp [none] at before
      obtain ⟨within, -, between⟩ := List.isChain_append.mp near
      have gap := between last before next rfl
      obtain ⟨answers, held⟩ := ih begun within fun first member =>
        fresh first (by rw [List.head?_append_of_ne_nil _ begun]; exact member)
      have length := Nat.sub_add_cancel (List.length_pos_iff.mpr begun)
      have collision := meet_of_collision positive small gap (burst.length - 1)
      rw [length] at collision
      constructor
      · rw [replies_append, answers, held last before, fold_concat, foldAt,
          if_neg (List.length_pos_iff.mpr begun).ne']
        simp only [replies, collision]
        split <;> rfl
      · intro newest member
        simp only [List.getLast?_concat, Option.mem_some_iff] at member
        subst member
        rw [heldAfter_append, held last before]
        simp [heldAfter, collision]

/-! ### Many bursts -/

theorem replies_bursts (positive : 0 < threshold) (small : threshold ≤ mostCollisions)
    {held : Option Entry} {bursts : List (List Attempt)} (nonempty : [] ∉ bursts)
    (near : ∀ burst ∈ bursts,
      burst.IsChain fun last next => next.now.nanos - last.now.nanos < window.nanos)
    (apart : bursts.IsChain fun burst next => ∃ some more,
      ¬(next.head more).now.nanos - (burst.getLast some).now.nanos < window.nanos)
    (fresh : ∀ first ∈ bursts.flatten.head?,
      meet window threshold held first.now = (.pass, ⟨first.now, 0⟩)) :
    replies window threshold held bursts.flatten = bursts.flatMap (fold window threshold) := by
  induction bursts generalizing held with
  | nil => rfl
  | cons burst rest ih =>
    simp only [List.mem_cons, not_or] at nonempty
    obtain ⟨begun, others⟩ := nonempty
    have begun : burst ≠ [] := Ne.symm begun
    have last := List.getLast?_eq_some_getLast begun
    obtain ⟨answers, after⟩ := replies_burst positive small begun (near burst List.mem_cons_self)
      fun first member => fresh first (by
        rw [List.flatten_cons, List.head?_append_of_ne_nil _ begun]
        exact member)
    rw [List.flatten_cons, replies_append, answers, after _ last, List.flatMap_cons,
      ih others (fun burst member => near burst (List.mem_cons_of_mem _ member)) apart.tail]
    -- The next burst begins a window or more after the last attempt of this one.
    intro first member
    cases rest with
    | nil => contradiction
    | cons next rest =>
      obtain ⟨some, more, gap⟩ := (List.isChain_cons_cons.mp apart).1
      rw [List.flatten_cons, List.head?_append_of_ne_nil _ more, List.head?_eq_some_head more,
        Option.mem_some_iff] at member
      subst member
      exact meet_of_gap gap

/-- One in so many attempts of a burst passes, beginning with the first. -/
theorem countP_fold {burst : List Attempt} (nonempty : burst ≠ []) :
    (fold window threshold burst).countP Option.isSome = 1 + (burst.length - 1) / threshold := by
  induction burst using List.reverseRecOn with
  | nil => contradiction
  | append_singleton burst next ih =>
    rw [fold_concat, List.countP_append, List.countP_singleton, List.length_append,
      List.length_singleton, Nat.add_sub_cancel]
    by_cases begun : burst = []
    · simp [begun, fold, foldAt]
    · have length := Nat.sub_add_cancel (List.length_pos_iff.mpr begun)
      have quotient := Nat.succ_div (a := burst.length - 1) (b := threshold)
      rw [length] at quotient
      rw [ih begun, quotient]
      by_cases turn : burst.length % threshold = 0
      · simp [foldAt, turn, Nat.dvd_of_mod_eq_zero turn, Nat.add_assoc]
      · simp [foldAt, turn, mt Nat.mod_eq_zero_of_dvd turn]

/-- Attempts are folded burst by burst, if nothing is held of their key before. -/
theorem replies_eq (positive : 0 < threshold) (small : threshold ≤ mostCollisions)
    (attempts : List Attempt) :
    replies window threshold none attempts =
      (bursts window attempts).flatMap (fold window threshold) := by
  have whole : (bursts window attempts).flatten = attempts := List.flatten_splitBy _ _
  conv_lhs => rw [← whole]
  refine replies_bursts positive small (List.nil_notMem_splitBy _ _) (fun burst member => ?_) ?_
    fun _ _ => rfl
  · exact (List.isChain_of_mem_splitBy member).imp fun _ _ near => of_decide_eq_true near
  · exact (List.isChain_getLast_head_splitBy _ attempts).imp fun _ _ ⟨begun, more, apart⟩ =>
      ⟨begun, more, of_decide_eq_false apart⟩

end Burst

/-- What becomes of attempts at one key. -/
structure BurstLaw (window : Span) (threshold : Nat) (attempts : List Attempt)
    (answers : List (Option Context)) : Prop where
  /-- Each burst is folded for itself: of every `threshold` attempts the first passes, unchanged if
  it is the first of the burst, and else with what it stands for. -/
  answered : answers = (bursts window attempts).flatMap (fold window threshold)
  /-- So many attempts of a burst pass. -/
  admitted : ∀ burst ∈ bursts window attempts,
    (fold window threshold burst).countP Option.isSome = 1 + (burst.length - 1) / threshold
  /-- An attempt stands for those that have been suppressed since the last one that passed. -/
  counted : ∀ context : Context,
    (annotate context (threshold - 1) window).get? "suppressed_count" =
      some (.ofInt (threshold - 1 : Nat))
  windowed : ∀ context : Context,
    (annotate context (threshold - 1) window).get? "suppressed_window_ms" =
      some (.ofInt (min window.millis 0xffffffffffffffff : Nat))
  /-- Nothing else of its context changes. -/
  unchanged : ∀ (context : Context) (name : String), name ≠ "suppressed_count" →
    name ≠ "suppressed_window_ms" →
      (annotate context (threshold - 1) window).get? name = context.get? name

theorem get?_annotate (context : Context) (suppressed : Nat) (window : Span) (name : String) :
    (annotate context suppressed window).get? name =
      if name = windowName then some (.ofInt (min window.millis mostMillis : Nat))
      else if name = countName then some (.ofInt suppressed) else context.get? name := by
  rw [annotate, Context.get?_insert _ (by decide), Context.get?_insert _ (by decide)]

theorem burst_law (window : Span) (threshold : UInt32) (mostKeys : Nat) (key : Key)
    (attempts : List Attempt)
    (kept : (ofSettings window threshold.toNat mostKeys).keeps key (attempts.map .attempt)) :
    BurstLaw window (max threshold.toNat 1) (attempts.filter (·.key == key))
      ((ofSettings window threshold.toNat mostKeys).answersTo key attempts) := by
  have positive : 0 < max threshold.toNat 1 := Nat.le_max_right ..
  have small : max threshold.toNat 1 ≤ mostCollisions := by
    have below := threshold.toNat_lt
    rw [mostCollisions]
    omega
  refine ⟨?_, fun burst member => countP_fold (List.ne_nil_of_mem_splitBy member),
    fun context => ?_, fun context => ?_, fun context name other other' => ?_⟩
  · have recent := Recent.of_after window threshold.toNat mostKeys []
    have alone := answersTo_eq recent key attempts kept
    exact alone.trans (replies_eq positive small _)
  · exact (get?_annotate ..).trans ((if_neg (by decide)).trans (if_pos rfl))
  · exact (get?_annotate ..).trans (if_pos rfl)
  · exact (get?_annotate ..).trans ((if_neg other').trans (if_neg other))

/-- Two bursts of a key, the first of them around an attempt at another key. -/
def scattered : List Attempt :=
  [⟨⟨0⟩, ⟨.info, "a"⟩, .empty⟩, ⟨⟨3⟩, ⟨.info, "a"⟩, .empty⟩, ⟨⟨4⟩, ⟨.warn, "a"⟩, .empty⟩,
    ⟨⟨9⟩, ⟨.info, "a"⟩, .empty⟩, ⟨⟨12⟩, ⟨.info, "a"⟩, .empty⟩, ⟨⟨22⟩, ⟨.info, "a"⟩, .empty⟩,
    ⟨⟨20⟩, ⟨.info, "a"⟩, .empty⟩]

theorem burst_law_scattered :
    (ofSettings ⟨10⟩ 2 2).keeps ⟨.info, "a"⟩ (scattered.map .attempt) ∧
      (bursts ⟨10⟩ (scattered.filter (·.key == ⟨.info, "a"⟩))).map List.length = [4, 2] ∧
      BurstLaw ⟨10⟩ 2 (scattered.filter (·.key == ⟨.info, "a"⟩))
        ((ofSettings ⟨10⟩ 2 2).answersTo ⟨.info, "a"⟩ scattered) := by
  have kept : (ofSettings ⟨10⟩ (2 : UInt32).toNat 2).keeps ⟨.info, "a"⟩
      (scattered.map .attempt) := by decide +kernel
  exact ⟨kept, by decide +kernel, burst_law ⟨10⟩ 2 2 ⟨.info, "a"⟩ scattered kept⟩

end FeedMonitor.Limiter
