import FeedMonitor.Json.Value
import Mathlib.Data.List.Induction

/-!
The members of an object are known by what is found under each name.

Members that are built one by one stand in the order of their names. Two lists of members in that
order are equal if they answer alike to every name.
-/

namespace FeedMonitor.Json.Members

/-- Each name stands before those that are greater, and stands once. -/
def Sorted (members : Members) : Prop := members.Pairwise fun first second => first.1 < second.1

instance (members : Members) : Decidable members.Sorted :=
  inferInstanceAs (Decidable (members.Pairwise fun first second => first.1 < second.1))

theorem get?_insert_eq (name other : String) (value : Json) (members : Members) :
    (members.insert name value).get? other =
      if other = name then some value else members.get? other := by
  split
  · rename_i same
    rw [same, get?_insert]
  · rename_i differ
    exact get?_insert_of_ne differ value members

theorem mem_insert {name : String} {value : Json} {members : Members} {member : String × Json}
    (found : member ∈ members.insert name value) : member = (name, value) ∨ member ∈ members := by
  induction members with
  | nil => exact .inl (List.mem_singleton.mp found)
  | cons first rest ih =>
    obtain ⟨other, held⟩ := first
    simp only [insert] at found
    split at found
    · exact List.mem_cons.mp found
    · split at found
      · rcases List.mem_cons.mp found with here | behind
        · exact .inl here
        · exact .inr (List.mem_cons_of_mem _ behind)
      · rcases List.mem_cons.mp found with here | behind
        · exact .inr (List.mem_cons.mpr (.inl here))
        · rcases ih behind with new | before
          · exact .inl new
          · exact .inr (List.mem_cons_of_mem _ before)

namespace Sorted

variable {members : Members}

theorem insert (sorted : members.Sorted) (name : String) (value : Json) :
    (members.insert name value).Sorted := by
  induction members with
  | nil => exact List.pairwise_singleton _ _
  | cons first rest ih =>
    obtain ⟨other, held⟩ := first
    obtain ⟨above, sortedRest⟩ := List.pairwise_cons.mp sorted
    simp only [Members.insert]
    split
    · rename_i below
      refine List.pairwise_cons.mpr ⟨fun member found => ?_, sorted⟩
      rcases List.mem_cons.mp found with rfl | behind
      · exact below
      · exact String.lt_trans below (above member behind)
    · rename_i notBelow
      split
      · rename_i same
        rw [same]
        exact List.pairwise_cons.mpr ⟨above, sortedRest⟩
      · rename_i differ
        refine List.pairwise_cons.mpr ⟨fun member found => ?_, ih sortedRest⟩
        rcases mem_insert found with rfl | before
        · exact String.not_le.mp fun back =>
            differ (String.le_antisymm back (String.not_lt.mp notBelow))
        · exact above member before

theorem ofList (members : List (String × Json)) : (Members.ofList members).Sorted := by
  unfold Members.ofList
  refine List.foldlRecOn members _ List.Pairwise.nil fun held sorted member _ => ?_
  exact Sorted.insert sorted member.1 member.2

/-- What stands behind the first name has other names. -/
theorem get?_eq_none {name : String} {value : Json} (sorted : Sorted ((name, value) :: members)) :
    members.get? name = none := by
  refine List.lookup_eq_none_iff.mpr fun member found => ?_
  have above := (List.pairwise_cons.mp sorted).1 member found
  simpa using fun same : name = member.1 => String.lt_irrefl _ (same ▸ above)

/-- The first name of a list is not found in one whose names are all greater. -/
theorem get?_eq_none_of_lt {name other : String} {value : Json}
    (sorted : Sorted ((other, value) :: members)) (below : name < other) :
    get? name ((other, value) :: members) = none := by
  refine List.lookup_eq_none_iff.mpr fun member found => ?_
  have above : name < member.1 := by
    rcases List.mem_cons.mp found with rfl | behind
    · exact below
    · exact String.lt_trans below ((List.pairwise_cons.mp sorted).1 member behind)
  simpa using fun same : name = member.1 => String.lt_irrefl _ (same ▸ above)

theorem ext {other : Members} (sorted : members.Sorted) (sorted' : other.Sorted)
    (same : ∀ name, members.get? name = other.get? name) : members = other := by
  induction members generalizing other with
  | nil =>
    cases other with
    | nil => rfl
    | cons first rest =>
      obtain ⟨name, value⟩ := first
      have found := same name
      simp [get?] at found
  | cons first rest ih =>
    obtain ⟨name, value⟩ := first
    cases other with
    | nil => simpa [get?] using same name
    | cons first' rest' =>
      obtain ⟨name', value'⟩ := first'
      have here : get? name ((name, value) :: rest) = some value := by simp [get?]
      have there : get? name' ((name', value') :: rest') = some value' := by simp [get?]
      -- If the first names differ, the lesser one is found on one side only.
      have names : name = name' := by
        by_contra differ
        have order : name < name' ∨ name' < name := by
          by_cases below : name < name'
          · exact .inl below
          · exact .inr (String.not_le.mp fun back =>
              differ (String.le_antisymm back (String.not_lt.mp below)))
        rcases order with below | below
        · rw [same, sorted'.get?_eq_none_of_lt below] at here
          contradiction
        · rw [← same, sorted.get?_eq_none_of_lt below] at there
          contradiction
      subst names
      have values : value = value' := by
        rw [same, there] at here
        exact (Option.some.inj here).symm
      subst values
      have rests := ih (List.pairwise_cons.mp sorted).2 (List.pairwise_cons.mp sorted').2
        fun other => by
          by_cases first : other = name
          · rw [first, sorted.get?_eq_none, sorted'.get?_eq_none]
          · have apart : (other == name) = false := by simpa using first
            simpa [get?, List.lookup_cons, apart] using same other
      rw [rests]

end Sorted

/-- Of members with different names each one is found. -/
theorem get?_ofList {members : List (String × Json)} (distinct : (members.map Prod.fst).Nodup)
    (name : String) : (ofList members).get? name = members.lookup name := by
  -- The members come from the left, so the last one is the one that is put in last.
  induction members using List.reverseRecOn with
  | nil => rfl
  | append_singleton front last ih =>
    obtain ⟨other, value⟩ := last
    rw [List.map_append, List.nodup_append] at distinct
    obtain ⟨front_distinct, -, apart⟩ := distinct
    have step : ofList (front ++ [(other, value)]) = (ofList front).insert other value := by
      simp [ofList]
    rw [step, get?_insert_eq, ih front_distinct, List.lookup_append]
    split
    · rename_i same
      subst same
      have absent : front.lookup name = none := by
        refine List.lookup_eq_none_iff.mpr fun member found => ?_
        have differ := apart member.1 (List.mem_map_of_mem found) name (by simp)
        simpa using differ.symm
      simp [absent]
    · rename_i differ
      have none : [(other, value)].lookup name = none := by simpa using differ
      rw [none, Option.or_none]

theorem Sorted.distinct {members : Members} (sorted : members.Sorted) :
    (members.map Prod.fst).Nodup := by
  refine List.pairwise_map.mpr (List.Pairwise.imp ?_ sorted)
  intro first second below same
  exact String.lt_irrefl _ (same ▸ below)

/-- Members in the order of their names are put together as they are. -/
theorem Sorted.ofList_eq {members : Members} (sorted : members.Sorted) :
    Members.ofList members = members :=
  Sorted.ext (Sorted.ofList members) sorted (get?_ofList sorted.distinct)

theorem perm_insert {name : String} {value : Json} {members : Members}
    (absent : name ∉ members.map Prod.fst) :
    (members.insert name value).Perm ((name, value) :: members) := by
  induction members with
  | nil => exact List.Perm.refl _
  | cons first rest ih =>
    obtain ⟨other, held⟩ := first
    rw [List.map_cons, List.mem_cons, not_or] at absent
    simp only [insert]
    split
    · exact List.Perm.refl _
    · rw [if_neg absent.1]
      exact ((ih absent.2).cons _).trans (List.Perm.swap _ _ _)

/-- Members with different names are put in order and nothing else. -/
theorem perm_ofList {members : List (String × Json)} (distinct : (members.map Prod.fst).Nodup) :
    (ofList members).Perm members := by
  induction members using List.reverseRecOn with
  | nil => exact List.Perm.refl _
  | append_singleton front last ih =>
    rw [List.map_append, List.nodup_append] at distinct
    obtain ⟨front_distinct, -, apart⟩ := distinct
    have front_perm := ih front_distinct
    have absent : last.1 ∉ (ofList front).map Prod.fst := by
      intro member
      have before := (front_perm.map Prod.fst).mem_iff.mp member
      exact apart last.1 before last.1 (by simp) rfl
    have step : ofList (front ++ [last]) = (ofList front).insert last.1 last.2 := by
      simp [ofList]
    rw [step]
    exact (perm_insert absent).trans ((front_perm.cons last).trans (List.perm_append_singleton _ _).symm)

end FeedMonitor.Json.Members
