import FeedMonitor.Sampler

/-!
Which events are sampled.

Events of one key are numbered from one. The first is sampled, and then each one whose number is a
multiple of the interval, whatever comes of other keys in between.
-/

namespace FeedMonitor.Sampler

/-- Whether the event of a key with some number is sampled. -/
def Picks (interval number : Nat) : Prop := number = 1 ∨ interval ∣ number

instance (interval number : Nat) : Decidable (Picks interval number) :=
  inferInstanceAs (Decidable (_ ∨ _))

def after (sampler : Sampler) (keys : List String) : Sampler :=
  keys.foldl (fun sampler key => (sampler.observe key).2) sampler

/-- The answers to the events of one key. -/
def answersTo (sampler : Sampler) (key : String) : List String → List Bool
  | [] => []
  | first :: rest =>
    (if first = key then [(sampler.observe first).1] else []) ++
      (sampler.observe first).2.answersTo key rest

/-! ### One event -/

@[simp]
theorem interval_observe (sampler : Sampler) (key : String) :
    (sampler.observe key).2.interval = sampler.interval := rfl

theorem sampled_observe (sampler : Sampler) (key : String) :
    (sampler.observe key).1 = decide (Picks sampler.interval (sampler.count key + 1)) := by
  simp [observe, Picks, Nat.dvd_iff_mod_eq_zero, Bool.decide_or, Bool.beq_eq_decide_eq]

/-! ### Many events -/

theorem interval_after (sampler : Sampler) (keys : List String) :
    (sampler.after keys).interval = sampler.interval := by
  induction keys generalizing sampler with
  | nil => rfl
  | cons first rest ih => exact ih _

theorem count_after (sampler : Sampler) (key : String) (keys : List String) :
    (sampler.after keys).count key = sampler.count key + keys.count key := by
  induction keys generalizing sampler with
  | nil => rfl
  | cons first rest ih =>
    have later : (sampler.after (first :: rest)).count key =
        (sampler.observe first).2.count key + rest.count key := ih _
    by_cases same : first = key
    · subst same
      rw [later, count_observe, List.count_cons_self]
      omega
    · rw [later, count_observe_of_ne (Ne.symm same), List.count_cons_of_ne same]

theorem observeAll_cons (sampler : Sampler) (key : String) (rest : List String) :
    sampler.observeAll (key :: rest) =
      (sampler.observe key).1 :: (sampler.observe key).2.observeAll rest := rfl

theorem observeAll_append (sampler : Sampler) (keys more : List String) :
    sampler.observeAll (keys ++ more) =
      sampler.observeAll keys ++ (sampler.after keys).observeAll more := by
  induction keys generalizing sampler with
  | nil => rfl
  | cons first rest ih =>
    rw [List.cons_append, observeAll_cons, ih, observeAll_cons, List.cons_append]
    rfl

theorem length_observeAll (sampler : Sampler) (keys : List String) :
    (sampler.observeAll keys).length = keys.length := by
  induction keys generalizing sampler with
  | nil => rfl
  | cons first rest ih => rw [observeAll_cons, List.length_cons, ih, List.length_cons]

theorem getElem?_observeAll (sampler : Sampler) (before : List String) (key : String)
    (rest : List String) :
    (sampler.observeAll (before ++ key :: rest))[before.length]? = some (decide
      (Picks sampler.interval (sampler.count key + (before ++ [key]).count key))) := by
  have length := length_observeAll sampler before
  have number : (sampler.after before).count key + 1 =
      sampler.count key + (before ++ [key]).count key := by
    rw [count_after, List.count_append, List.count_singleton_self, Nat.add_assoc]
  rw [observeAll_append, List.getElem?_append_right (Nat.le_of_eq length), length, Nat.sub_self,
    observeAll_cons, List.getElem?_cons_zero, sampled_observe, interval_after, number]

/-! ### One key -/

theorem answersTo_eq (sampler : Sampler) (key : String) (keys : List String) :
    sampler.answersTo key keys = (List.range (keys.count key)).map fun place =>
      decide (Picks sampler.interval (sampler.count key + place + 1)) := by
  induction keys generalizing sampler with
  | nil => rfl
  | cons first rest ih =>
    rw [answersTo, ih, interval_observe]
    by_cases same : first = key
    · subst same
      rw [if_pos rfl, List.count_cons_self, List.range_succ_eq_map, List.map_cons, List.map_map,
        count_observe, sampled_observe]
      simp [Function.comp_def, Nat.add_assoc, Nat.add_comm 1]
    · rw [if_neg same, List.count_cons_of_ne same, count_observe_of_ne (Ne.symm same),
        List.nil_append]

theorem answersTo_filter (sampler : Sampler) (key : String) (keys : List String) :
    sampler.answersTo key (keys.filter (· == key)) = sampler.answersTo key keys := by
  have same : (keys.filter (· == key)).count key = keys.count key :=
    List.count_filter (beq_self_eq_true key)
  rw [answersTo_eq, answersTo_eq, same]

theorem observeAll_eq_answersTo {sampler : Sampler} {key : String} {keys : List String}
    (only : ∀ other ∈ keys, other = key) :
    sampler.observeAll keys = sampler.answersTo key keys := by
  induction keys generalizing sampler with
  | nil => rfl
  | cons first rest ih =>
    obtain ⟨same, others⟩ := List.forall_mem_cons.mp only
    rw [observeAll_cons, answersTo, if_pos same, ih others]
    rfl

theorem count_picks {interval : Nat} (positive : 0 < interval) (number : Nat) :
    ((List.range (number + 1)).map fun place => decide (Picks interval (place + 1))).count true =
      if interval = 1 then (number + 1) / interval else 1 + (number + 1) / interval := by
  -- The first event counts apart from the multiples unless it is one of them.
  induction number with
  | zero =>
    by_cases one : interval = 1
    · simp [one, Picks]
    · have zero : 1 / interval = 0 := Nat.div_eq_of_lt (by omega)
      simp [one, Picks, zero]
  | succ number ih =>
    have next : Picks interval (number + 1 + 1) ↔ interval ∣ number + 1 + 1 := by simp [Picks]
    rw [List.range_succ, List.map_append, List.count_append, ih, Nat.succ_div (a := number + 1),
      List.map_singleton]
    by_cases multiple : interval ∣ number + 1 + 1
    · rw [if_pos multiple, decide_eq_true (next.mpr multiple)]
      split <;> simp [Nat.add_assoc]
    · rw [if_neg multiple, decide_eq_false (mt next.mp multiple)]
      simp

/-! ### The law -/

structure SamplingLaw (sampler : Sampler) (interval : Nat) (keys : List String) : Prop where
  length : (sampler.observeAll keys).length = keys.length
  /-- An event is sampled if it is the first of its key, or so many of them as a multiple of the
  interval have come with it. -/
  sampled : ∀ before key rest, keys = before ++ key :: rest →
    (sampler.observeAll keys)[before.length]? = some (decide
      ((before ++ [key]).count key = 1 ∨ interval ∣ (before ++ [key]).count key))
  /-- The events of a key are answered as if there were no others. -/
  alone : ∀ key, sampler.answersTo key keys = sampler.observeAll (keys.filter (· == key))
  counted : ∀ key ∈ keys, (sampler.answersTo key keys).count true =
    if interval = 1 then keys.count key / interval else 1 + keys.count key / interval

theorem sampling_law (interval : Nat) (keys : List String) :
    SamplingLaw (ofInterval interval) (max interval 1) keys where
  length := length_observeAll ..
  sampled := by
    rintro before key rest rfl
    have start : (ofInterval interval).count key = 0 := rfl
    rw [getElem?_observeAll, start, Nat.zero_add]
    rfl
  alone key := by
    rw [← answersTo_filter, observeAll_eq_answersTo]
    intro other member
    simpa using (List.mem_filter.mp member).2
  counted key member := by
    have positive : 0 < max interval 1 := (ofInterval interval).positive
    obtain ⟨others, count⟩ := Nat.exists_eq_add_one.mpr (List.count_pos_iff.mpr member)
    have start : (ofInterval interval).count key = 0 := rfl
    rw [answersTo_eq, count, ← count_picks positive, start]
    simp only [Nat.zero_add]
    rfl

/-- An interval of two, with another key in between. -/
example :
    (ofInterval 2).observeAll ["a", "b", "a", "a", "b"] = [true, true, true, false, true] := by
  decide

end FeedMonitor.Sampler
