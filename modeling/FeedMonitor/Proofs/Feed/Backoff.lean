import FeedMonitor.Feed.Settings
import Mathlib.Algebra.Group.Nat.Defs
import Mathlib.Data.List.Induction

/-!
The delays of a backoff in closed form.

A product or a power that is too large is cut off on the way, but the greatest delay of a policy can
be represented and is smaller, so the cut never shows.
-/

namespace FeedMonitor

/-- Lengths of time that there are. -/
def Span.Representable (span : Span) : Prop := span.nanos ≤ Span.longest.nanos

theorem Span.isZero_eq_false_iff {span : Span} : span.isZero = false ↔ 0 < span.nanos := by
  rw [isZero, beq_eq_false_iff_ne, Nat.pos_iff_ne_zero]

/-- What is cut off above the longest span is cut off above a shorter one. -/
theorem Span.min_times {most : Span} (representable : most.Representable) (span : Span)
    (factor : Nat) : min (span.times factor).nanos most.nanos = min (span.nanos * factor) most.nanos := by
  have below : most.nanos ≤ longest.nanos := representable
  simp only [times]
  omega

namespace Feed

namespace BackoffPolicy

def Representable : BackoffPolicy → Prop
  | fixed delay => delay.Representable
  | exponential base most _ => base.Representable ∧ most.Representable

/-- The delay after `taken` delays, in nanoseconds and without any bound on the way. -/
def nanosAfter (taken : Nat) : BackoffPolicy → Nat
  | fixed delay => delay.nanos
  | exponential base most _ => min (base.nanos * 2 ^ min taken 31) most.nanos

theorem factor_of_le {exponent : Nat} (few : exponent ≤ 31) : factor exponent = 2 ^ exponent := by
  have power : 2 ^ exponent ≤ 2 ^ 31 := Nat.pow_le_pow_right (by decide) few
  have fits : 2 ^ exponent ≤ mostFactor := Nat.le_trans power (by decide)
  exact Nat.min_eq_left fits

theorem ceiling_min (policy : BackoffPolicy) (taken : Nat) :
    policy.ceiling (min taken Backoff.mostFailures) = policy.ceiling taken := by
  cases policy with
  | fixed delay => rfl
  | exponential base most jitter =>
    have same : min (min taken Backoff.mostFailures) 31 = min taken 31 := by
      simp only [Backoff.mostFailures]
      omega
    rw [ceiling, ceiling, same]

theorem nanos_ceiling {policy : BackoffPolicy} (representable : policy.Representable)
    (taken : Nat) : (policy.ceiling taken).nanos = policy.nanosAfter taken := by
  cases policy with
  | fixed delay => rfl
  | exponential base most jitter =>
    obtain ⟨-, mostRepresentable⟩ := representable
    have power : factor (min taken 31) = 2 ^ min taken 31 := factor_of_le (Nat.min_le_right _ _)
    rw [ceiling, power]
    exact Span.min_times mostRepresentable base _

theorem nanosAfter_mono (policy : BackoffPolicy) {fewer more : Nat} (le : fewer ≤ more) :
    policy.nanosAfter fewer ≤ policy.nanosAfter more := by
  cases policy with
  | fixed delay => exact Nat.le_refl _
  | exponential base most jitter =>
    have exponent : min fewer 31 ≤ min more 31 := by omega
    have power : 2 ^ min fewer 31 ≤ 2 ^ min more 31 := Nat.pow_le_pow_right (by decide) exponent
    have product := Nat.mul_le_mul_left base.nanos power
    simp only [nanosAfter]
    omega

theorem nanosAfter_pos {policy : BackoffPolicy} (usable : Settings.backoffFault? policy = none)
    (taken : Nat) : 0 < policy.nanosAfter taken := by
  cases policy with
  | fixed delay =>
    simp only [Settings.backoffFault?] at usable
    split at usable
    · contradiction
    · rename_i long
      exact Span.isZero_eq_false_iff.mp (Bool.eq_false_iff.mpr long)
  | exponential base most jitter =>
    simp only [Settings.backoffFault?] at usable
    split at usable
    · contradiction
    · rename_i ordered
      obtain ⟨long, order⟩ := not_or.mp (fun fault => ordered (by simpa using fault))
      have basePos : 0 < base.nanos := Span.isZero_eq_false_iff.mp (Bool.eq_false_iff.mpr long)
      have product : 0 < base.nanos * 2 ^ min taken 31 := Nat.mul_pos basePos (Nat.two_pow_pos _)
      simp only [nanosAfter]
      omega

end BackoffPolicy

theorem Settings.backoffFault?_of_check {settings : Settings} (usable : settings.check = .ok ()) :
    backoffFault? settings.backoff = none := by
  unfold check at usable
  split at usable
  · contradiction
  · rename_i sound
    unfold fault? at sound
    split at sound
    · contradiction
    · split at sound
      · contradiction
      · exact sound

namespace Backoff

inductive Call
  | next (draw : Nat)
  | reset

def Call.isNext : Call → Bool
  | next _ => true
  | reset => false

def take (backoff : Backoff) : Call → Backoff
  | .next draw => (backoff.next draw).2
  | .reset => backoff.reset

def after (backoff : Backoff) (calls : List Call) : Backoff := calls.foldl take backoff

/-- The delays that were taken since the failures were set back, or since the start. -/
def sinceReset (calls : List Call) : Nat := (calls.reverse.takeWhile Call.isNext).length

theorem after_append (backoff : Backoff) (calls more : List Call) :
    backoff.after (calls ++ more) = (backoff.after calls).after more :=
  List.foldl_append

theorem sinceReset_concat_next (calls : List Call) (draw : Nat) :
    sinceReset (calls ++ [.next draw]) = sinceReset calls + 1 := by
  rw [sinceReset, List.reverse_append, List.reverse_singleton, List.singleton_append,
    List.takeWhile_cons_of_pos rfl, List.length_cons, sinceReset]

theorem sinceReset_concat_reset (calls : List Call) : sinceReset (calls ++ [.reset]) = 0 := by
  simp [sinceReset, Call.isNext]

theorem sinceReset_append_next (calls : List Call) (draws : List Nat) :
    sinceReset (calls ++ draws.map .next) = sinceReset calls + draws.length := by
  induction draws using List.reverseRecOn with
  | nil => simp
  | append_singleton draws draw ih =>
    rw [List.map_append, List.map_singleton, ← List.append_assoc, sinceReset_concat_next, ih,
      List.length_append, List.length_singleton, Nat.add_assoc]

theorem after_eq (policy : BackoffPolicy) (calls : List Call) :
    (ofPolicy policy).after calls = ⟨policy, min (sinceReset calls) mostFailures⟩ := by
  induction calls using List.reverseRecOn with
  | nil => rfl
  | append_singleton calls call ih =>
    rw [after_append, ih]
    cases call with
    | next draw =>
      have counted : min (min (sinceReset calls) mostFailures + 1) mostFailures =
          min (sinceReset calls + 1) mostFailures := by omega
      rw [sinceReset_concat_next, ← counted]
      rfl
    | reset =>
      rw [sinceReset_concat_reset]
      rfl

theorem ceiling_after (policy : BackoffPolicy) (calls : List Call) :
    ((ofPolicy policy).after calls).ceiling = policy.ceiling (sinceReset calls) := by
  rw [after_eq]
  exact policy.ceiling_min _

theorem next_of_steady {backoff : Backoff} (steady : backoff.policy.hasJitter = false)
    (draw : Nat) : (backoff.next draw).1 = backoff.ceiling := by
  simp [next, steady]

theorem exists_millis_next {backoff : Backoff} (jitter : backoff.policy.hasJitter = true)
    (long : backoff.ceiling.isZero = false) (draw : Nat) :
    ∃ millis, (backoff.next draw).1 = .ofMillis millis :=
  ⟨draw % (min backoff.ceiling.millis mostJitter + 1), by simp [next, jitter, long]⟩

/-- A backoff of `policy` at its place after some calls. -/
structure Paced (policy : BackoffPolicy) (calls : List Call) (backoff : Backoff) : Prop where
  counted : backoff.failures = min (sinceReset calls) (2 ^ 32 - 1)
  ceiling : backoff.ceiling.nanos = policy.nanosAfter (sinceReset calls)
  most : ∀ base most jitter, policy = .exponential base most jitter →
    backoff.ceiling.nanos ≤ most.nanos
  grows : ∀ draws : List Nat,
    backoff.ceiling.nanos ≤ (backoff.after (draws.map .next)).ceiling.nanos
  steady : policy.hasJitter = false → ∀ draw, (backoff.next draw).1 = backoff.ceiling
  jitter : policy.hasJitter = true → ∀ draw,
    (backoff.next draw).1.nanos ≤ backoff.ceiling.nanos ∧
      (backoff.ceiling.isZero = false → ∃ millis, (backoff.next draw).1 = .ofMillis millis)
  usable : ∀ settings : Settings, settings.backoff = policy → settings.check = .ok () →
    backoff.ceiling.isZero = false

theorem pacing_law {policy : BackoffPolicy} (representable : policy.Representable)
    (calls : List Call) : Paced policy calls ((ofPolicy policy).after calls) := by
  have nanos : ∀ calls : List Call, ((ofPolicy policy).after calls).ceiling.nanos =
      policy.nanosAfter (sinceReset calls) := by
    intro calls
    rw [ceiling_after, BackoffPolicy.nanos_ceiling representable]
  have kept : ((ofPolicy policy).after calls).policy = policy := by rw [after_eq]
  refine ⟨?_, nanos calls, ?_, ?_, ?_, ?_, ?_⟩
  · rw [after_eq]
    rfl
  · rintro base most jitter rfl
    rw [nanos]
    exact Nat.min_le_right _ _
  · intro draws
    rw [← after_append, nanos, nanos, sinceReset_append_next]
    exact policy.nanosAfter_mono (Nat.le_add_right _ _)
  · intro steady draw
    exact next_of_steady (by rw [kept, steady]) draw
  · intro jitter draw
    exact ⟨next_le_ceiling _ draw, fun long => exists_millis_next (by rw [kept, jitter]) long draw⟩
  · rintro settings rfl usable
    rw [Span.isZero_eq_false_iff, nanos]
    exact BackoffPolicy.nanosAfter_pos (Settings.backoffFault?_of_check usable) _

/-- A policy whose delay, doubled, is longer than any span. -/
def vast : BackoffPolicy := .exponential (.ofSeconds (2 ^ 63)) .longest true

/-- More failures than a factor has bits, after one that was set back. -/
def failing : List Call := .next 5 :: .reset :: List.replicate 40 (.next 7)

theorem pacing_law_vast :
    vast.Representable ∧ sinceReset failing = 40 ∧
      ((ofPolicy vast).after failing).ceiling = .longest ∧
      Paced vast failing ((ofPolicy vast).after failing) := by
  have representable : vast.Representable := by
    simp [vast, BackoffPolicy.Representable, Span.Representable, Span.ofSeconds, Span.longest]
  exact ⟨representable, by decide, by decide +kernel, pacing_law representable failing⟩

end Backoff

end Feed

end FeedMonitor
