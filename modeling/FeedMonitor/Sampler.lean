/-!
Sampling of frequent events: the first of each key and then every so many.
-/

namespace FeedMonitor

structure Sampler where
  interval : Nat
  positive : 0 < interval
  counts : List (String × Nat)

namespace Sampler

/-- An interval of zero acts as one. -/
def ofInterval (interval : Nat) : Sampler := ⟨max interval 1, by omega, []⟩

/-- How often `key` has been seen. -/
def count (sampler : Sampler) (key : String) : Nat := (sampler.counts.lookup key).getD 0

def putCount (key : String) (count : Nat) : List (String × Nat) → List (String × Nat)
  | [] => [(key, count)]
  | (other, held) :: rest =>
    if other = key then (key, count) :: rest else (other, held) :: putCount key count rest

/-- Counts one more event of `key` and says whether it is sampled. -/
def observe (sampler : Sampler) (key : String) : Bool × Sampler :=
  let count := sampler.count key + 1
  (count == 1 || count % sampler.interval == 0,
    { sampler with counts := putCount key count sampler.counts })

/-- The answers to a sequence of events. -/
def observeAll (sampler : Sampler) : List String → List Bool
  | [] => []
  | key :: rest =>
    let (sampled, sampler) := sampler.observe key
    sampled :: sampler.observeAll rest

theorem lookup_putCount (key : String) (count : Nat) (counts : List (String × Nat)) :
    (putCount key count counts).lookup key = some count := by
  induction counts with
  | nil => simp [putCount]
  | cons entry rest ih =>
    obtain ⟨other, held⟩ := entry
    simp only [putCount]
    split
    · simp
    · rename_i differ
      have h : (key == other) = false := beq_false_of_ne fun same => differ same.symm
      simpa [List.lookup_cons, h] using ih

theorem lookup_putCount_of_ne {key other : String} (differ : other ≠ key) (count : Nat)
    (counts : List (String × Nat)) :
    (putCount key count counts).lookup other = counts.lookup other := by
  have h : (other == key) = false := by simpa using differ
  induction counts with
  | nil => simp [putCount, List.lookup_cons, h]
  | cons entry rest ih =>
    obtain ⟨first, held⟩ := entry
    simp only [putCount]
    split
    · rename_i same
      subst same
      simp [List.lookup_cons, h]
    · simp only [List.lookup_cons]
      split <;> simp_all

@[simp]
theorem count_observe (sampler : Sampler) (key : String) :
    (sampler.observe key).2.count key = sampler.count key + 1 := by
  simp [observe, count, lookup_putCount]

theorem count_observe_of_ne {key other : String} (differ : other ≠ key) (sampler : Sampler) :
    (sampler.observe key).2.count other = sampler.count other := by
  simp [observe, count, lookup_putCount_of_ne differ]

end Sampler

end FeedMonitor
