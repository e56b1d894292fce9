import FeedMonitor.Proofs.Feed.Backoff

/-!
How far an exponential delay grows.

It doubles with each of the first thirty-one failures, cut off at the greatest delay, then stays.
So the greatest delay is reached exactly if thirty-one doublings of the base reach it.
-/

namespace FeedMonitor.Feed

namespace BackoffPolicy

variable {base most : Span} {jitter : Bool}

theorem nanosAfter_succ {taken : Nat} (few : taken < 31) :
    (exponential base most jitter).nanosAfter (taken + 1) =
      min (2 * (exponential base most jitter).nanosAfter taken) most.nanos := by
  have now : min taken 31 = taken := by omega
  have next : min (taken + 1) 31 = taken + 1 := by omega
  have doubled : base.nanos * 2 ^ (taken + 1) = 2 * (base.nanos * 2 ^ taken) := by
    rw [Nat.pow_succ, ← Nat.mul_assoc, Nat.mul_comm]
  simp only [nanosAfter, now, next, doubled]
  omega

theorem nanosAfter_of_many {taken : Nat} (many : 31 ≤ taken) :
    (exponential base most jitter).nanosAfter taken = min (base.nanos * 2 ^ 31) most.nanos := by
  rw [nanosAfter, Nat.min_eq_right many]

/-- A base that reaches the greatest delay is there before the doubling ends. -/
theorem nanosAfter_of_reaches (reaches : most.nanos ≤ base.nanos * 2 ^ 31) (taken : Nat) :
    (exponential base most jitter).nanosAfter taken = min (base.nanos * 2 ^ taken) most.nanos := by
  by_cases many : 31 ≤ taken
  · have power : 2 ^ 31 ≤ 2 ^ taken := Nat.pow_le_pow_right (by decide) many
    have product := Nat.mul_le_mul_left base.nanos power
    rw [nanosAfter_of_many many]
    omega
  · have few : min taken 31 = taken := by omega
    rw [nanosAfter, few]

theorem base_pos (usable : Settings.backoffFault? (exponential base most jitter) = none) :
    0 < base.nanos := by
  have first : 0 < min (base.nanos * 1) most.nanos := nanosAfter_pos usable 0
  omega

theorem nanosAfter_eq_min_iff (positive : 0 < base.nanos) :
    (∀ taken, (exponential base most jitter).nanosAfter taken =
      min (base.nanos * 2 ^ taken) most.nanos) ↔ most.nanos ≤ base.nanos * 2 ^ 31 := by
  constructor
  · intro law
    have doubles := law 32
    rw [nanosAfter_of_many (by decide)] at doubles
    omega
  · exact nanosAfter_of_reaches

theorem nanosAfter_eq_most_iff :
    (∃ failures, ∀ taken, failures ≤ taken →
      (exponential base most jitter).nanosAfter taken = most.nanos) ↔
        most.nanos ≤ base.nanos * 2 ^ 31 := by
  constructor
  · rintro ⟨failures, reached⟩
    have final := reached (failures + 31) (by omega)
    rw [nanosAfter_of_many (by omega)] at final
    omega
  · intro reaches
    refine ⟨31, fun taken many => ?_⟩
    rw [nanosAfter_of_many many]
    exact Nat.min_eq_right reaches

end BackoffPolicy

theorem Settings.check_of_load {environment : Environment} {settings : Settings}
    {journal : Journal} (loaded : load environment = (.ok settings, journal)) :
    settings.check = .ok () := by
  rw [load] at loaded
  generalize ofEnvironment environment = given at loaded
  obtain ⟨same, -⟩ := Prod.mk.inj loaded
  cases checked : given.1.check with
  | ok done =>
    rw [checked] at same
    obtain rfl := Except.ok.inj same
    exact checked
  | error failure =>
    rw [checked] at same
    contradiction

namespace Backoff

open BackoffPolicy

/-- The delay before jitter that follows some calls. -/
def delayAfter (policy : BackoffPolicy) (calls : List Call) : Span :=
  ((ofPolicy policy).after calls).ceiling

theorem nanos_delayAfter {policy : BackoffPolicy} (representable : policy.Representable)
    (calls : List Call) :
    (delayAfter policy calls).nanos = policy.nanosAfter (sinceReset calls) := by
  rw [delayAfter, ceiling_after, nanos_ceiling representable]

theorem sinceReset_replicate (failures : Nat) :
    sinceReset (List.replicate failures (.next 0)) = failures := by
  have counted := sinceReset_append_next [] (List.replicate failures 0)
  rw [List.map_replicate, List.length_replicate, List.nil_append] at counted
  rw [counted]
  exact Nat.zero_add failures

theorem delayAfter_eq_iff {policy : BackoffPolicy} (representable : policy.Representable)
    {calls : List Call} {delay : Span} :
    delayAfter policy calls = delay ↔ policy.nanosAfter (sinceReset calls) = delay.nanos := by
  rw [← nanos_delayAfter representable]
  exact ⟨congrArg Span.nanos, congrArg Span.mk⟩

/-- Any number of failures may follow a reset. -/
theorem sinceReset_surjective : Function.Surjective sinceReset :=
  fun failures => ⟨List.replicate failures (.next 0), sinceReset_replicate failures⟩

theorem cap_law {settings : Settings} {base most : Span} {jitter : Bool}
    (usable : settings.check = .ok ())
    (policy : settings.backoff = .exponential base most jitter)
    (representable : settings.backoff.Representable) :
    (∀ calls draw, (delayAfter settings.backoff (calls ++ [.next draw])).nanos =
      if sinceReset calls < 31 then min (2 * (delayAfter settings.backoff calls).nanos) most.nanos
      else (delayAfter settings.backoff calls).nanos) ∧
    ((∀ calls, (delayAfter settings.backoff calls).nanos =
      min (base.nanos * 2 ^ sinceReset calls) most.nanos) ↔ most.nanos ≤ base.nanos * 2 ^ 31) ∧
    ((∃ failures, ∀ calls, failures ≤ sinceReset calls →
      delayAfter settings.backoff calls = most) ↔ most.nanos ≤ base.nanos * 2 ^ 31) ∧
    (base.nanos * 2 ^ 31 < most.nanos → ∀ calls, 31 ≤ sinceReset calls →
      (delayAfter settings.backoff calls).nanos = base.nanos * 2 ^ 31) := by
  have sound := Settings.backoffFault?_of_check usable
  rw [policy] at sound representable ⊢
  have positive := base_pos sound
  simp only [nanos_delayAfter representable, delayAfter_eq_iff representable,
    sinceReset_concat_next]
  refine ⟨?_, ?_, ?_, ?_⟩
  · intro calls draw
    split
    · rename_i few
      exact nanosAfter_succ few
    · rename_i many
      rw [nanosAfter_of_many (by omega), nanosAfter_of_many (by omega)]
  · rw [← nanosAfter_eq_min_iff positive, sinceReset_surjective.forall]
  · rw [← @nanosAfter_eq_most_iff base most jitter]
    simp only [sinceReset_surjective.forall]
  · intro short calls many
    rw [nanosAfter_of_many many]
    omega

/-- A base of a millisecond and a greatest delay of two to the power of thirty-two. -/
def slowPairs : Environment :=
  [("STREAM_BACKOFF", "exponential"), ("STREAM_RECONNECT_DELAY_MS", "1"),
    ("STREAM_MAX_BACKOFF_MS", "4294967296")]

def slow : Settings := (Settings.ofEnvironment slowPairs).1

theorem backoff_slow :
    slow.backoff = .exponential (.ofMillis 1) (.ofMillis 4294967296) true := by
  decide +kernel

theorem representable_slow : slow.backoff.Representable := by
  rw [backoff_slow]
  simp [BackoffPolicy.Representable, Span.Representable, Span.ofMillis, Span.longest]

theorem load_slow : Settings.load slowPairs = (.ok slow, []) := by rfl

theorem check_slow : slow.check = .ok () := Settings.check_of_load load_slow

theorem cap_law_slow :
    slow.check = .ok () ∧ slow.backoff.Representable ∧
      delayAfter slow.backoff (List.replicate 40 (.next 7)) = .ofMillis 2147483648 := by
  have stays := (cap_law check_slow backoff_slow representable_slow).2.2.2 (by decide)
    (List.replicate 40 (.next 7)) (by decide)
  exact ⟨check_slow, representable_slow, congrArg Span.mk stays⟩

/-- Half the greatest delay is the longest that these settings wait. -/
theorem cap_never_reached :
    Settings.load slowPairs = (.ok slow, []) ∧
      (¬∃ calls, delayAfter slow.backoff calls = .ofMillis 4294967296) ∧
      ¬∀ calls, (delayAfter slow.backoff calls).nanos =
        min ((Span.ofMillis 1).nanos * 2 ^ sinceReset calls) (Span.ofMillis 4294967296).nanos := by
  have nanos := nanos_delayAfter representable_slow
  rw [backoff_slow] at nanos ⊢
  refine ⟨load_slow, ?_, ?_⟩
  · rintro ⟨calls, reached⟩
    have within := nanos calls
    have power : 2 ^ min (sinceReset calls) 31 ≤ 2 ^ 31 :=
      Nat.pow_le_pow_right (by decide) (Nat.min_le_right _ _)
    rw [reached] at within
    simp only [nanosAfter, Span.ofMillis] at within
    omega
  · intro law
    have doubles := law (List.replicate 32 (.next 0))
    rw [nanos, sinceReset_replicate] at doubles
    exact absurd doubles (by decide)

end Backoff

end FeedMonitor.Feed
