import FeedMonitor.Delivery.System

/-!
What the effects of a run say of records and batches: lists of them, in the order of the run.
-/

namespace FeedMonitor.Delivery

namespace Effect

/-- The record that a command brings. -/
def offers : Effect → List Record
  | .offered record _ => [record]
  | _ => []

/-- The record that enters the queue. -/
def admits : Effect → List Record
  | .offered record .accepted | .offered record (.evicted _) => [record]
  | _ => []

/-- The records that leave the head of the queue. -/
def releases : Effect → List Record
  | .offered _ (.evicted head) => [head]
  | .formed _ batch => batch
  | _ => []

/-- The record that is lost to overflow. -/
def discards : Effect → List Record
  | .offered record .dropped => [record]
  | .offered _ (.evicted head) => [head]
  | _ => []

def batches : Effect → List (List Record)
  | .formed _ batch => [batch]
  | _ => []

/-- The batch that is formed for a task. -/
def formedFor (task : Nat) : Effect → List (List Record)
  | .formed other batch => if other = task then [batch] else []
  | _ => []

/-- The batch whose delivery by a task is done. -/
def deliveredBy (task : Nat) : Effect → List (List Record)
  | .delivered other batch => if other = task then [batch] else []
  | _ => []

/-- What a task does to the sink. -/
def workOf (task : Nat) : Effect → List Effect
  | .begun other batch => if other = task then [.begun other batch] else []
  | .delivered other batch => if other = task then [.delivered other batch] else []
  | _ => []

def answers : Effect → List (Nat × Answer)
  | .answered request answer => [(request, answer)]
  | _ => []

/-- Whether an effect is no more than a word to somebody. -/
def IsNote : Effect → Prop
  | .log _ | .answered _ _ | .lost _ => True
  | _ => False

/-- Nothing is to be seen in notes. -/
structure Blind {α : Type} (view : Effect → List α) : Prop where
  log : ∀ entry, view (.log entry) = []
  answered : ∀ request answer, view (.answered request answer) = []
  lost : ∀ request, view (.lost request) = []

theorem Blind.flatMap {α : Type} {view : Effect → List α} (blind : Blind view)
    {effects : List Effect} (notes : ∀ effect ∈ effects, effect.IsNote) :
    effects.flatMap view = [] := by
  refine List.flatMap_eq_nil_iff.mpr fun effect member => ?_
  have note := notes effect member
  cases effect with
  | log entry => exact blind.log entry
  | answered request answer => exact blind.answered request answer
  | lost request => exact blind.lost request
  | _ => exact note.elim

theorem blind_offers : Blind offers := ⟨fun _ => rfl, fun _ _ => rfl, fun _ => rfl⟩

theorem blind_admits : Blind admits := ⟨fun _ => rfl, fun _ _ => rfl, fun _ => rfl⟩

theorem blind_releases : Blind releases := ⟨fun _ => rfl, fun _ _ => rfl, fun _ => rfl⟩

theorem blind_discards : Blind discards := ⟨fun _ => rfl, fun _ _ => rfl, fun _ => rfl⟩

theorem blind_batches : Blind batches := ⟨fun _ => rfl, fun _ _ => rfl, fun _ => rfl⟩

theorem blind_formedFor (task : Nat) : Blind (formedFor task) :=
  ⟨fun _ => rfl, fun _ _ => rfl, fun _ => rfl⟩

theorem blind_workOf (task : Nat) : Blind (workOf task) :=
  ⟨fun _ => rfl, fun _ _ => rfl, fun _ => rfl⟩

end Effect

namespace System

theorem notes_logs (journal : Journal) : ∀ effect ∈ logs journal, effect.IsNote := by
  intro effect member
  obtain ⟨entry, -, rfl⟩ := List.mem_map.mp member
  trivial

theorem notes_drain (system : System) (text : String) :
    ∀ effect ∈ serviceLine text :: system.drain.2, effect.IsNote := by
  intro effect member
  rcases List.mem_cons.mp member with rfl | member
  · trivial
  · unfold drain at member
    split at member <;> simp at member
    subst member
    trivial

theorem notes_lost (requests : List Nat) : ∀ effect ∈ requests.map Effect.lost, effect.IsNote := by
  intro effect member
  obtain ⟨request, -, rfl⟩ := List.mem_map.mp member
  trivial

theorem notes_finish (system : System) (task : Task) :
    ∀ effect ∈ (system.finish task).2, effect.IsNote := by
  intro effect member
  unfold finish at member
  split at member <;> simp at member
  rcases member with rfl | rfl <;> trivial

end System

theorem Effect.Blind.logs {α : Type} {view : Effect → List α} (blind : Blind view)
    (journal : Journal) : (System.logs journal).flatMap view = [] :=
  blind.flatMap (System.notes_logs journal)

/-- The counts that belong to a history. -/
def Stats.of (effects : List Effect) : Stats :=
  ⟨(effects.flatMap Effect.admits).length - (effects.flatMap Effect.releases).length,
    (effects.flatMap Effect.discards).length, (effects.flatMap Effect.batches).length⟩

/-- Whatever is offered or released was admitted or turned away, or is in a batch or lost. -/
theorem perm_offers_releases (effects : List Effect) :
    (effects.flatMap Effect.offers ++ effects.flatMap Effect.releases).Perm
      ((effects.flatMap Effect.batches).flatten ++ effects.flatMap Effect.discards ++
        effects.flatMap Effect.admits) := by
  classical
  refine List.perm_iff_count.mpr fun record => ?_
  induction effects with
  | nil => rfl
  | cons effect rest ih =>
    simp only [List.flatMap_cons, List.flatten_append, List.count_append] at ih ⊢
    have one : effect.offers.count record + effect.releases.count record =
        effect.batches.flatten.count record + effect.discards.count record +
          effect.admits.count record := by
      cases effect with
      | offered other outcome =>
        cases outcome <;> simp [Effect.offers, Effect.releases, Effect.batches, Effect.discards,
          Effect.admits]
        omega
      | formed task batch => simp [Effect.offers, Effect.releases, Effect.batches, Effect.discards,
          Effect.admits]
      | _ => rfl
    omega

theorem length_offers_add_releases (effects : List Effect) :
    (effects.flatMap Effect.offers).length + (effects.flatMap Effect.releases).length =
      (effects.flatMap Effect.batches).flatten.length +
        (effects.flatMap Effect.discards).length + (effects.flatMap Effect.admits).length := by
  simpa only [List.length_append] using (perm_offers_releases effects).length_eq

theorem flatten_batches_sublist (effects : List Effect) :
    (effects.flatMap Effect.batches).flatten.Sublist (effects.flatMap Effect.releases) := by
  induction effects with
  | nil => exact .slnil
  | cons effect rest ih =>
    simp only [List.flatMap_cons, List.flatten_append]
    refine List.Sublist.append ?_ ih
    cases effect with
    | offered record outcome => cases outcome <;> simp [Effect.batches]
    | formed task batch => simp [Effect.batches, Effect.releases]
    | _ => exact .slnil

end FeedMonitor.Delivery
