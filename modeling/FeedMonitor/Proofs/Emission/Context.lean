import FeedMonitor.Dedup.Limiter
import FeedMonitor.Proofs.Json.Members

/-!
What is sent of a context that was put together name by name.

A name that is added or replaced in the context is added or replaced in what is sent, and nothing
else there changes. So the two names of a marker come on top of what would be sent without it.
-/

namespace FeedMonitor.Context

/-- Contexts as a caller can have them. -/
inductive Built : Context → Prop
  | empty : Built empty
  | withEvent {context : Context} (built : Built context) (event : String) :
      Built (context.withEvent event)
  | insert {context : Context} (built : Built context) (name : String) (value : Value) :
      Built (context.insert name value)

/-- No name is held twice. -/
def Distinct (context : Context) : Prop := (context.entries.map Prod.fst).Nodup

theorem names_putEntry (name : String) (value : Value) (entries : List (String × Value)) :
    (putEntry name value entries).map Prod.fst =
      if name ∈ entries.map Prod.fst then entries.map Prod.fst
      else entries.map Prod.fst ++ [name] := by
  induction entries with
  | nil => simp [putEntry]
  | cons entry rest ih =>
    obtain ⟨other, held⟩ := entry
    by_cases same : other = name
    · simp [putEntry, same]
    · have apart : name ≠ other := fun back => same back.symm
      simp only [putEntry, same, if_false, List.map_cons, List.mem_cons, apart, false_or, ih]
      split <;> rfl

theorem nodup_putEntry {name : String} {value : Value} {entries : List (String × Value)}
    (distinct : (entries.map Prod.fst).Nodup) :
    ((putEntry name value entries).map Prod.fst).Nodup := by
  rw [names_putEntry]
  split
  · exact distinct
  · rename_i absent
    have alone : [name].Nodup := List.nodup_cons.mpr ⟨List.not_mem_nil, List.nodup_nil⟩
    refine List.nodup_append.mpr ⟨distinct, alone, fun other known last member same => ?_⟩
    rw [← List.mem_singleton.mp member, ← same] at absent
    exact absent known

theorem Distinct.insert {context : Context} (distinct : context.Distinct) (name : String)
    (value : Value) : (context.insert name value).Distinct := by
  unfold Context.insert
  split
  · exact distinct
  · exact nodup_putEntry distinct

theorem Built.distinct {context : Context} (built : context.Built) : context.Distinct := by
  induction built with
  | empty => exact List.nodup_nil
  | withEvent _ _ ih => exact ih
  | insert _ name value ih => exact ih.insert name value

/-! ### Snapshots -/

/-- The JSON of each value. -/
def shown (entries : List (String × Value)) : List (String × Json) :=
  entries.map fun entry => (entry.1, (entry.2.snapshot entry.1).1)

theorem names_shown (entries : List (String × Value)) :
    (shown entries).map Prod.fst = entries.map Prod.fst := by
  simp [shown]

theorem lookup_shown (entries : List (String × Value)) (name : String) :
    (shown entries).lookup name = (entries.lookup name).map fun value => (value.snapshot name).1 := by
  induction entries with
  | nil => rfl
  | cons first rest ih =>
    obtain ⟨other, value⟩ := first
    have front : shown ((other, value) :: rest) =
        (other, (value.snapshot other).1) :: shown rest := rfl
    rw [front, List.lookup_cons, List.lookup_cons]
    cases same : name == other with
    | true =>
      rw [eq_of_beq same]
      rfl
    | false => exact ih

theorem members_snapshot (context : Context) :
    context.snapshot.1 =
      if context.entries = [] then none else some (Json.Members.ofList (shown context.entries)) := by
  simp only [snapshot, shown, List.isEmpty_iff, List.map_eq_nil_iff, List.map_map]
  rfl

theorem getD_snapshot (context : Context) :
    context.snapshot.1.getD [] = Json.Members.ofList (shown context.entries) := by
  rw [members_snapshot]
  split
  · rename_i empty
    rw [empty]
    rfl
  · rfl

theorem ofList_shown_putEntry {entries : List (String × Value)}
    (distinct : (entries.map Prod.fst).Nodup) (name : String) (value : Value) :
    Json.Members.ofList (shown (putEntry name value entries)) =
      (Json.Members.ofList (shown entries)).insert name (value.snapshot name).1 := by
  -- Both sides stand in the order of names, so it is enough to look each name up.
  refine (Json.Members.Sorted.ofList _).ext ((Json.Members.Sorted.ofList _).insert _ _)
    fun other => ?_
  have apart : ((shown entries).map Prod.fst).Nodup := by rwa [names_shown]
  have apart' : ((shown (putEntry name value entries)).map Prod.fst).Nodup := by
    rw [names_shown]
    exact nodup_putEntry distinct
  rw [Json.Members.get?_insert_eq, Json.Members.get?_ofList apart, Json.Members.get?_ofList apart',
    lookup_shown, lookup_shown, lookup_putEntry]
  split
  · rename_i same
    rw [same]
    rfl
  · rfl

theorem putEntry_ne_nil (name : String) (value : Value) (entries : List (String × Value)) :
    putEntry name value entries ≠ [] := by
  cases entries with
  | nil => simp [putEntry]
  | cons first rest =>
    simp only [putEntry]
    split <;> simp

theorem entries_insert {name : String} (plain : name ≠ eventName) (context : Context)
    (value : Value) : (context.insert name value).entries = putEntry name value context.entries := by
  unfold Context.insert
  split
  · rename_i tag
    exact absurd (beq_iff_eq.mp tag) plain
  · rfl

theorem snapshot_insert {context : Context} (distinct : context.Distinct) {name : String}
    (plain : name ≠ eventName) (value : Value) :
    (context.insert name value).snapshot.1 =
      some ((context.snapshot.1.getD []).insert name (value.snapshot name).1) := by
  rw [members_snapshot, entries_insert plain, if_neg (putEntry_ne_nil _ _ _), ofList_shown_putEntry distinct,
    getD_snapshot]

/-- A snapshot may complain of values that it cannot show; it echoes nothing. -/
theorem snapshot_lines (context : Context) :
    ∀ entry ∈ context.snapshot.2, ∃ text, entry = Journal.telemetry .debug text := by
  intro entry member
  simp only [snapshot, List.flatMap_map, List.mem_flatMap] at member
  obtain ⟨⟨name, value⟩, -, line⟩ := member
  cases value with
  | primitive value => simp [Value.snapshot] at line
  | error captured => simp [Value.snapshot] at line
  | structured value =>
    simp only [Value.snapshot] at line
    split at line
    · contradiction
    · exact ⟨_, List.mem_singleton.mp line⟩

end FeedMonitor.Context

namespace FeedMonitor.Limiter

/-- What is sent with a marker: the marker's two members on top of the others. -/
def marked (members : Json.Members) (suppressed : Nat) (window : Span) : Json.Members :=
  (members.insert countName (.ofNat suppressed)).insert windowName
    (.ofNat (min window.millis mostMillis))

theorem snapshot_annotate {context : Context} (distinct : context.Distinct) (suppressed : Nat)
    (window : Span) :
    (annotate context suppressed window).snapshot.1 =
      some (marked (context.snapshot.1.getD []) suppressed window) := by
  have plain : countName ≠ Context.eventName := by decide
  have plain' : windowName ≠ Context.eventName := by decide
  rw [annotate, Context.snapshot_insert (distinct.insert ..) plain',
    Context.snapshot_insert distinct plain]
  rfl

end FeedMonitor.Limiter
