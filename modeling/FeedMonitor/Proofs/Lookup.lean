import Mathlib.Data.List.Nodup

/-!
Look-ups in lists of pairs of which some are left out.
-/

namespace FeedMonitor

variable {κ ν : Type} [BEq κ] [LawfulBEq κ]

theorem lookup_filter_ne {key other : κ} (differ : other ≠ key) (entries : List (κ × ν)) :
    (entries.filter fun entry => entry.1 != key).lookup other = entries.lookup other := by
  induction entries with
  | nil => rfl
  | cons first rest ih =>
    by_cases here : first.1 = key
    · have unlike : (other == first.1) = false := by simpa [here] using differ
      rw [List.filter_cons_of_neg (by simpa using here), ih, List.lookup_cons, unlike]
    · rw [List.filter_cons_of_pos (by simpa using here), List.lookup_cons, List.lookup_cons, ih]

/-- What is found in a part of the entries is found in all of them if no key stands there twice. -/
theorem lookup_of_sublist {part entries : List (κ × ν)} {key : κ} {value : ν}
    (distinct : (entries.map Prod.fst).Nodup) (sublist : part.Sublist entries)
    (found : part.lookup key = some value) : entries.lookup key = some value := by
  obtain ⟨before, after, rfl, -⟩ := List.lookup_eq_some_iff.mp found
  obtain ⟨front, back, rfl⟩ := List.append_of_mem (sublist.subset (List.mem_append_right before
    List.mem_cons_self))
  refine List.lookup_eq_some_iff.mpr ⟨front, back, rfl, fun other member => ?_⟩
  rw [List.map_append, List.map_cons] at distinct
  have apart := List.disjoint_of_nodup_append distinct (List.mem_map_of_mem member)
  simpa using fun same : key = other.1 => apart (by simp [same])

end FeedMonitor
