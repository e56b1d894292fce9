import FeedMonitor.Json.Traversal

/-!
A walk is a search for the first accepted node.

The nodes of a value stand in one list: an object before what lies in it, everything else from the
left to the right, each with its depth. A walk offers the start of that list, as far as the depth
allows, and stops with the first node that is accepted.
-/

namespace FeedMonitor.Json

mutual

/-- The objects and scalars of a value that lies `depth` deep, and how deep each of them lies. -/
def placed (depth : Nat) : Json → List (Nat × Node)
  | .object members => (depth, .object members) :: placedMembers (depth + 1) members
  | .array items => placedItems (depth + 1) items
  | scalar => [(depth, .scalar scalar)]

def placedItems (depth : Nat) : List Json → List (Nat × Node)
  | [] => []
  | item :: rest => placed depth item ++ placedItems depth rest

def placedMembers (depth : Nat) : List (String × Json) → List (Nat × Node)
  | [] => []
  | (_, value) :: rest => placed depth value ++ placedMembers depth rest

end

/-- The deepest nodes that may be offered. -/
def depthLimit : Nat := 32

/-- The nodes of a value that are not too deep. -/
def offerable (value : Json) : List (Nat × Node) :=
  (placed 0 value).filter fun place => place.1 ≤ depthLimit

/-! ### The nodes of the first levels -/

mutual

theorem le_of_mem_placed (depth : Nat) :
    (value : Json) → ∀ place ∈ placed depth value, depth ≤ place.1
  | .object members => by
    intro place member
    rw [placed] at member
    rcases List.mem_cons.mp member with rfl | below
    · exact Nat.le_refl _
    · have deeper := le_of_mem_placedMembers (depth + 1) members place below
      omega
  | .array items => by
    intro place member
    rw [placed] at member
    have deeper := le_of_mem_placedItems (depth + 1) items place member
    omega
  | .null | .bool _ | .number _ | .string _ => by
    intro place member
    simp only [placed, List.mem_singleton] at member
    exact Nat.le_of_eq (congrArg Prod.fst member).symm

theorem le_of_mem_placedItems (depth : Nat) :
    (items : List Json) → ∀ place ∈ placedItems depth items, depth ≤ place.1
  | [] => by
    intro place member
    simp [placedItems] at member
  | item :: rest => by
    intro place member
    rw [placedItems] at member
    rcases List.mem_append.mp member with here | behind
    · exact le_of_mem_placed depth item place here
    · exact le_of_mem_placedItems depth rest place behind

theorem le_of_mem_placedMembers (depth : Nat) :
    (members : List (String × Json)) → ∀ place ∈ placedMembers depth members, depth ≤ place.1
  | [] => by
    intro place member
    simp [placedMembers] at member
  | (_, value) :: rest => by
    intro place member
    rw [placedMembers] at member
    rcases List.mem_append.mp member with here | behind
    · exact le_of_mem_placed depth value place here
    · exact le_of_mem_placedMembers depth rest place behind

end

/-- The nodes of `places` in the first `levels` levels from `depth` on. -/
def within (depth levels : Nat) (places : List (Nat × Node)) : List Node :=
  (places.filter fun place => place.1 < depth + levels).map Prod.snd

theorem within_append (depth levels : Nat) (front back : List (Nat × Node)) :
    within depth levels (front ++ back) = within depth levels front ++ within depth levels back := by
  simp [within]

theorem within_zero {depth : Nat} {places : List (Nat × Node)}
    (deep : ∀ place ∈ places, depth ≤ place.1) : within depth 0 places = [] := by
  have none : places.filter (fun place => place.1 < depth + 0) = [] := by
    refine List.filter_eq_nil_iff.mpr fun place member => ?_
    have bound := deep place member
    simpa using bound
  rw [within, none]
  rfl

/-- One level fewer, counted from one level below, ends in the same depth. -/
theorem within_succ (depth levels : Nat) (places : List (Nat × Node)) :
    within (depth + 1) levels places = within depth (levels + 1) places := by
  have same : depth + 1 + levels = depth + (levels + 1) := by omega
  rw [within, within, same]

mutual

theorem nodesWithin_eq (depth levels : Nat) :
    (value : Json) → nodesWithin levels value = within depth levels (placed depth value)
  | .object members => by
    cases levels with
    | zero => rw [within_zero (le_of_mem_placed depth _), nodesWithin]
    | succ levels =>
      have inner := nodesOfMembers_eq (depth + 1) levels members
      rw [within_succ] at inner
      simp [nodesWithin, placed, within, inner]
  | .array items => by
    cases levels with
    | zero => rw [within_zero (le_of_mem_placed depth _), nodesWithin]
    | succ levels =>
      have inner := nodesOfItems_eq (depth + 1) levels items
      rw [within_succ] at inner
      rw [nodesWithin, placed, inner]
  | .null | .bool _ | .number _ | .string _ => by
    cases levels with
    | zero => rw [within_zero (le_of_mem_placed depth _)]; rfl
    | succ levels => simp [nodesWithin, placed, within]

theorem nodesOfItems_eq (depth levels : Nat) :
    (items : List Json) → nodesOfItems levels items = within depth levels (placedItems depth items)
  | [] => rfl
  | item :: rest => by
    rw [nodesOfItems, placedItems, within_append, nodesWithin_eq depth levels item,
      nodesOfItems_eq depth levels rest]

theorem nodesOfMembers_eq (depth levels : Nat) : (members : List (String × Json)) →
    nodesOfMembers levels members = within depth levels (placedMembers depth members)
  | [] => rfl
  | (_, value) :: rest => by
    rw [nodesOfMembers, placedMembers, within_append, nodesWithin_eq depth levels value,
      nodesOfMembers_eq depth levels rest]

end

theorem nodesWithin_walkLevels (value : Json) :
    nodesWithin walkLevels value = (offerable value).map Prod.snd := by
  have last : ∀ place : Nat × Node, (place.1 < 0 + walkLevels) = (place.1 ≤ depthLimit) := by
    intro place
    simp only [walkLevels, depthLimit, eq_iff_iff]
    omega
  rw [nodesWithin_eq 0, within, offerable]
  simp only [last]

/-! ### Walking is searching -/

variable {σ β : Type}

mutual

theorem walkWithin_eq (visit : Visitor σ β) (levels : Nat) : (state : σ) → (value : Json) →
    walkWithin visit levels state value = searchNodes visit state (nodesWithin levels value)
  | state, .object members => by
    cases levels with
    | zero => rfl
    | succ levels =>
      simp only [walkWithin, nodesWithin, searchNodes]
      cases visit state (.object members) with
      | mk found next =>
        cases found with
        | some output => rfl
        | none => exact walkMembers_eq visit levels next members
  | state, .array items => by
    cases levels with
    | zero => rfl
    | succ levels => exact walkItems_eq visit levels state items
  | state, .null | state, .bool _ | state, .number _ | state, .string _ => by
    cases levels with
    | zero => rfl
    | succ levels =>
      simp only [walkWithin, nodesWithin, searchNodes]
      split <;> simp_all

theorem walkItems_eq (visit : Visitor σ β) (levels : Nat) : (state : σ) → (items : List Json) →
    walkItems visit levels state items = searchNodes visit state (nodesOfItems levels items)
  | _, [] => rfl
  | state, item :: rest => by
    rw [walkItems, nodesOfItems, searchNodes_append, walkWithin_eq visit levels state item]
    cases searchNodes visit state (nodesWithin levels item) with
    | mk found next =>
      cases found with
      | some output => rfl
      | none => exact walkItems_eq visit levels next rest

theorem walkMembers_eq (visit : Visitor σ β) (levels : Nat) :
    (state : σ) → (members : List (String × Json)) →
      walkMembers visit levels state members =
        searchNodes visit state (nodesOfMembers levels members)
  | _, [] => rfl
  | state, (_, value) :: rest => by
    rw [walkMembers, nodesOfMembers, searchNodes_append, walkWithin_eq visit levels state value]
    cases searchNodes visit state (nodesWithin levels value) with
    | mk found next =>
      cases found with
      | some output => rfl
      | none => exact walkMembers_eq visit levels next rest

end

theorem walk_eq (visit : Visitor σ β) (state : σ) (value : Json) :
    walk visit state value = searchNodes visit state ((offerable value).map Prod.snd) := by
  rw [walk, walkWithin_eq, nodesWithin_walkLevels]

/-! ### What is offered -/

/-- Sees what `visit` sees, and notes every node that is offered. -/
def Visitor.recorded (visit : Visitor σ β) : Visitor (σ × List Node) β := fun (state, seen) node =>
  let (found, next) := visit state node
  (found, next, seen ++ [node])

/-- The nodes of a list are offered one after the other and none is accepted. -/
inductive Declined (visit : Visitor σ β) : σ → List Node → σ → Prop
  | nil (state : σ) : Declined visit state [] state
  | cons {state next last : σ} {node : Node} {rest : List Node}
      (refused : visit state node = (none, next)) (later : Declined visit next rest last) :
      Declined visit state (node :: rest) last

/-- A list of nodes is searched for the first that is accepted. -/
structure FirstMatch (visit : Visitor σ β) (state : σ) (nodes offered : List Node)
    (result : Option β) (last : σ) : Prop where
  start : offered <+: nodes
  /-- Without a result all are offered, and none is accepted. -/
  missed : result = none → offered = nodes ∧ Declined visit state offered last
  /-- The result is that of the last node that is offered, and none before it is accepted. -/
  found : ∀ output, result = some output → ∃ front node middle, offered = front ++ [node] ∧
    Declined visit state front middle ∧ visit middle node = (some output, last)

theorem FirstMatch.cons {visit : Visitor σ β} {state next last : σ} {node : Node}
    {rest offered : List Node} {result : Option β} (refused : visit state node = (none, next))
    (later : FirstMatch visit next rest offered result last) :
    FirstMatch visit state (node :: rest) (node :: offered) result last where
  start := List.cons_prefix_cons.mpr ⟨rfl, later.start⟩
  missed := by
    intro nothing
    obtain ⟨all, declined⟩ := later.missed nothing
    exact ⟨congrArg (node :: ·) all, .cons refused declined⟩
  found := by
    intro output some
    obtain ⟨front, accepted, middle, split, declined, visited⟩ := later.found output some
    exact ⟨node :: front, accepted, middle, congrArg (node :: ·) split, .cons refused declined,
      visited⟩

/-- A search gives its visitor the nodes of a first match, after those that were `seen` before. -/
theorem searchNodes_recorded (visit : Visitor σ β) (state : σ) (seen nodes : List Node) :
    ∃ offered,
      searchNodes visit.recorded (state, seen) nodes =
        ((searchNodes visit state nodes).1, (searchNodes visit state nodes).2, seen ++ offered) ∧
      FirstMatch visit state nodes offered (searchNodes visit state nodes).1
        (searchNodes visit state nodes).2 := by
  induction nodes generalizing state seen with
  | nil =>
    refine ⟨[], by simp [searchNodes], List.prefix_refl _, ?_, ?_⟩
    · intro _
      exact ⟨rfl, .nil state⟩
    · intro output some
      cases some
  | cons node rest ih =>
    cases visited : visit state node with
    | mk found next =>
      cases found with
      | some output =>
        refine ⟨[node], by simp [searchNodes, Visitor.recorded, visited], ?_, ?_, ?_⟩
        · exact List.cons_prefix_cons.mpr ⟨rfl, List.nil_prefix⟩
        · intro nothing
          simp [searchNodes, visited] at nothing
        · intro other same
          have outputs : output = other := by simpa [searchNodes, visited] using same
          subst outputs
          exact ⟨[], node, state, rfl, .nil state, by simp [searchNodes, visited]⟩
      | none =>
        obtain ⟨offered, recorded, later⟩ := ih next (seen ++ [node])
        refine ⟨node :: offered, ?_, ?_⟩
        · simpa [searchNodes, Visitor.recorded, visited] using recorded
        · have cons := later.cons visited
          simpa [searchNodes, visited] using cons

theorem walk_finds_first (visit : Visitor σ β) (state : σ) (value : Json) :
    ∃ places, places <+: offerable value ∧ (∀ place ∈ places, place.1 ≤ depthLimit) ∧
      walk visit.recorded (state, []) value =
        ((walk visit state value).1, (walk visit state value).2, places.map Prod.snd) ∧
      FirstMatch visit state ((offerable value).map Prod.snd) (places.map Prod.snd)
        (walk visit state value).1 (walk visit state value).2 := by
  obtain ⟨offered, recorded, first⟩ :=
    searchNodes_recorded visit state [] ((offerable value).map Prod.snd)
  obtain ⟨places, start, rfl⟩ := List.prefix_map_iff.mp first.start
  refine ⟨places, start, ?_, ?_, ?_⟩
  · intro place member
    have kept := List.mem_filter.mp (start.subset member)
    simpa using kept.2
  · rw [walk_eq, walk_eq]
    exact recorded
  · rw [walk_eq]
    exact first

end FeedMonitor.Json
