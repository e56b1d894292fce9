import FeedMonitor.Proofs.Emission.Context
import Mathlib.Data.List.Basic

/-!
A context as the calls tell that made it, and what is sent of it.

The names stand in the order in which they were first given, each with the value given last; a text
under the name of the event tag is the tag. What is sent under a name comes of its value alone.
-/

namespace FeedMonitor

/-- The kind and the message of an error, and a line for each of its causes. -/
def ErrorSnapshot.stackOf (kind message : String) (causes : List String) : String :=
  kind ++ ": " ++ message ++ String.join (causes.map fun cause => "\n    caused by: " ++ cause)

theorem ErrorSnapshot.capture_eq (kind message : String) (causes : List String) :
    capture kind message causes = ⟨kind, message, stackOf kind message causes⟩ := by
  have lines : causeLines causes =
      String.join (causes.map fun cause => "\n    caused by: " ++ cause) := by
    simp [causeLines, String.join, List.foldl_map, String.append_assoc]
  rw [capture, lines, stackOf]

theorem ErrorSnapshot.toMembers_eq (error : ErrorSnapshot) :
    error.toMembers = [("message", .string error.message), ("name", .string error.name),
      ("stack", .string error.stack)] := by
  have first : "message" < "name" := by decide +kernel
  have second : ¬"stack" < "message" := by decide +kernel
  have third : ¬"stack" < "name" := by decide +kernel
  simp [ErrorSnapshot.toMembers, Json.Members.ofList, Json.Members.insert, first, second, third]

namespace Context

inductive Call
  | event (tag : String)
  | put (name : String) (value : Value)
  | structured (name : String) (value : Structured)
  | error (name kind message : String) (causes : List String)

def take (context : Context) : Call → Context
  | .event tag => context.withEvent tag
  | .put name value => context.insert name value
  | .structured name value => context.withValue name value
  | .error name kind message causes => context.withError name kind message causes

def ofCalls (calls : List Call) : Context := calls.foldl take empty

/-- The event tag that a call sets. -/
def Call.tag? : Call → Option String
  | .event tag => some tag
  | .put name (.primitive (.string text)) => if name = eventName then some text else none
  | _ => none

/-- The entry that a call makes; one that sets the event tag makes none. -/
def Call.entry? : Call → Option (String × Value)
  | .event _ => none
  | .put name value => if (put name value).tag?.isSome then none else some (name, value)
  | .structured name value => some (name, .structured value)
  | .error name kind message causes =>
    some (name, .error ⟨kind, message, ErrorSnapshot.stackOf kind message causes⟩)

def entered (calls : List Call) : List (String × Value) := calls.filterMap Call.entry?

variable {context : Context} {calls : List Call}

/-! ### Calls -/

theorem Call.tag?_put_eq_some_iff {name text : String} {value : Value} :
    (put name value).tag? = some text ↔ name = eventName ∧ value = .primitive (.string text) := by
  constructor
  · intro tagged
    unfold tag? at tagged
    split at tagged
    · contradiction
    · rename_i call
      cases call
      split at tagged
      · rename_i named
        cases tagged
        exact ⟨named, rfl⟩
      · contradiction
    · contradiction
  · rintro ⟨rfl, rfl⟩
    rfl

theorem insert_of_tagged {name text : String} {value : Value}
    (tagged : (Call.put name value).tag? = some text) :
    context.insert name value = context.withEvent text := by
  obtain ⟨rfl, rfl⟩ := Call.tag?_put_eq_some_iff.mp tagged
  rfl

theorem insert_of_untagged {name : String} {value : Value}
    (untagged : (Call.put name value).tag? = none) :
    context.insert name value =
      { context with entries := putEntry name value context.entries } := by
  unfold insert
  split
  · rename_i text named
    have tagged : (Call.put name (.primitive (.string text))).tag? = some text :=
      Call.tag?_put_eq_some_iff.mpr ⟨beq_iff_eq.mp named, rfl⟩
    rw [untagged] at tagged
    contradiction
  · rfl

/-- A call sets the event tag, or it makes an entry. -/
theorem take_cases (context : Context) (call : Call) :
    (∃ text, call.tag? = some text ∧ call.entry? = none ∧
      context.take call = context.withEvent text) ∨
    ∃ name value, call.tag? = none ∧ call.entry? = some (name, value) ∧
      (∀ text, name = eventName → value ≠ .primitive (.string text)) ∧
      context.take call = { context with entries := putEntry name value context.entries } := by
  cases call with
  | event tag => exact .inl ⟨tag, rfl, rfl, rfl⟩
  | put name value =>
    cases tagged : (Call.put name value).tag? with
    | some text => exact .inl ⟨text, rfl, by simp [Call.entry?, tagged], insert_of_tagged tagged⟩
    | none =>
      refine .inr ⟨name, value, rfl, by simp [Call.entry?, tagged], ?_, insert_of_untagged tagged⟩
      intro text named same
      rw [Call.tag?_put_eq_some_iff.mpr ⟨named, same⟩] at tagged
      contradiction
  | structured name value =>
    exact .inr ⟨name, .structured value, rfl, rfl, by simp, insert_of_untagged rfl⟩
  | error name kind message causes =>
    refine .inr ⟨name, _, rfl, rfl, by simp, ?_⟩
    rw [← ErrorSnapshot.capture_eq]
    exact insert_of_untagged rfl

/-! ### Entries -/

theorem eraseDups_concat (names : List String) (name : String) :
    (names ++ [name]).eraseDups =
      if name ∈ names then names.eraseDups else names.eraseDups ++ [name] := by
  rw [List.eraseDups_append]
  by_cases known : name ∈ names
  · simp [known, List.removeAll]
  · simp [known, List.removeAll, List.eraseDups_cons]

theorem lookup_reverse_concat (entries : List (String × Value)) (name : String) (value : Value)
    (other : String) : (entries ++ [(name, value)]).reverse.lookup other =
      if other = name then some value else entries.reverse.lookup other := by
  rw [List.reverse_append, List.reverse_singleton, List.singleton_append, List.lookup_cons]
  by_cases same : other = name
  · simp [same]
  · have apart : (other == name) = false := by simpa using same
    simp [same, apart]

theorem mem_putEntry {name : String} {value : Value} {entries : List (String × Value)}
    {entry : String × Value} (member : entry ∈ putEntry name value entries) :
    entry = (name, value) ∨ entry ∈ entries := by
  induction entries with
  | nil => exact .inl (List.mem_singleton.mp member)
  | cons first rest ih =>
    simp only [putEntry] at member
    split at member
    · rcases List.mem_cons.mp member with here | behind
      · exact .inl here
      · exact .inr (List.mem_cons_of_mem _ behind)
    · rcases List.mem_cons.mp member with here | behind
      · exact .inr (List.mem_cons.mpr (.inl here))
      · rcases ih behind with new | before
        · exact .inl new
        · exact .inr (List.mem_cons_of_mem _ before)

theorem ofCalls_concat (calls : List Call) (call : Call) :
    ofCalls (calls ++ [call]) = (ofCalls calls).take call := by
  simp [ofCalls]

/-- What a context holds after some calls. -/
structure Holds (calls : List Call) (context : Context) : Prop where
  event : context.event = (calls.filterMap Call.tag?).getLast?
  untagged : ∀ text, (eventName, .primitive (.string text)) ∉ context.entries
  names : context.entries.map Prod.fst = ((entered calls).map Prod.fst).eraseDups
  latest : ∀ name, context.get? name = (entered calls).reverse.lookup name

theorem holds_ofCalls (calls : List Call) : Holds calls (ofCalls calls) := by
  induction calls using List.reverseRecOn with
  | nil => exact ⟨rfl, fun text => List.not_mem_nil, rfl, fun name => rfl⟩
  | append_singleton calls call ih =>
    rw [ofCalls_concat]
    rcases (ofCalls calls).take_cases call with ⟨text, tagged, noEntry, taken⟩ |
      ⟨name, value, untagged, entry, plain, taken⟩
    · have same : entered (calls ++ [call]) = entered calls := by
        simp [entered, noEntry]
      rw [taken]
      refine ⟨by simp [withEvent, tagged], ih.untagged, ?_, ?_⟩
      · rw [same]
        exact ih.names
      · rw [same]
        exact ih.latest
    · have more : entered (calls ++ [call]) = entered calls ++ [(name, value)] := by
        simp [entered, entry]
      rw [taken]
      refine ⟨?_, ?_, ?_, ?_⟩
      · rw [List.filterMap_append, List.filterMap_cons_none untagged, List.filterMap_nil,
          List.append_nil]
        exact ih.event
      · intro text member
        rcases mem_putEntry member with here | before
        · obtain ⟨named, same⟩ := Prod.mk.inj here
          exact plain text named.symm same.symm
        · exact ih.untagged text before
      · have known : name ∈ ((entered calls).map Prod.fst).eraseDups ↔
            name ∈ (entered calls).map Prod.fst := List.mem_eraseDups
        rw [names_putEntry, ih.names, more, List.map_append, List.map_singleton, eraseDups_concat]
        simp only [known]
      · intro other
        rw [more, lookup_reverse_concat, ← ih.latest]
        exact lookup_putEntry name value _ other

theorem built_take (built : context.Built) (call : Call) : (context.take call).Built := by
  cases call with
  | event tag => exact built.withEvent tag
  | put name value => exact built.insert name value
  | structured name value => exact built.insert name (.structured value)
  | error name kind message causes => exact built.insert name (.error (.capture kind message causes))

theorem built_ofCalls (calls : List Call) : (ofCalls calls).Built := by
  unfold ofCalls
  exact List.foldlRecOn (motive := Built) calls take .empty fun context built call _ =>
    built_take built call

/-! ### What is sent -/

/-- The JSON that a value comes to. -/
inductive Value.Sends : Value → Json → Prop
  | primitive (value : Json) : Sends (.primitive value) value
  | error (error : ErrorSnapshot) :
      Sends (.error error) (.object [("message", .string error.message),
        ("name", .string error.name), ("stack", .string error.stack)])
  | serialized {value : Structured} {json : Json} (rendered : value.rendering = .ok json) :
      Sends (.structured value) json
  | described {value : Structured} {cause : String} (failed : value.rendering = .error cause) :
      Sends (.structured value) (.string value.description)

/-- The line about a value that has no JSON. -/
def complaint? (entry : String × Value) : Option Journal.Entry :=
  match entry.2 with
  | .structured ⟨.error cause, _⟩ =>
    some (Journal.telemetry .debug s!"Context value '{entry.1}' is not serializable: {cause}")
  | _ => none

theorem Value.sends_snapshot (name : String) (value : Value) :
    value.Sends (value.snapshot name).1 := by
  cases value with
  | primitive value => exact .primitive value
  | error error =>
    have members : ((Value.error error).snapshot name).1 = .object error.toMembers := rfl
    rw [members, ErrorSnapshot.toMembers_eq]
    exact .error error
  | structured value =>
    cases rendered : value.rendering with
    | ok json =>
      have same : ((Value.structured value).snapshot name).1 = json := by
        simp only [Value.snapshot, rendered]
      rw [same]
      exact .serialized rendered
    | error cause =>
      have same : ((Value.structured value).snapshot name).1 = .string value.description := by
        simp only [Value.snapshot, rendered]
      rw [same]
      exact .described rendered

theorem journal_snapshot (context : Context) :
    context.snapshot.2 = context.entries.filterMap complaint? := by
  have each (entry : String × Value) : (entry.2.snapshot entry.1).2 = (complaint? entry).toList := by
    obtain ⟨name, value⟩ := entry
    cases value with
    | primitive value => rfl
    | error error => rfl
    | structured value =>
      obtain ⟨rendering, description⟩ := value
      cases rendering <;> rfl
  have lines : context.snapshot.2 =
      context.entries.flatMap fun entry => (entry.2.snapshot entry.1).2 := by
    simp only [snapshot, List.flatMap_map]
  rw [lines, List.filterMap_eq_flatMap_toList]
  simp only [each]

theorem get?_snapshot (distinct : context.Distinct) (name : String) :
    (context.snapshot.1.getD []).get? name =
      (context.get? name).map fun value => (value.snapshot name).1 := by
  have apart : ((shown context.entries).map Prod.fst).Nodup := by
    rw [names_shown]
    exact distinct
  rw [getD_snapshot, Json.Members.get?_ofList apart]
  exact lookup_shown context.entries name

theorem names_snapshot (distinct : context.Distinct) :
    ((context.snapshot.1.getD []).map Prod.fst).Perm (context.entries.map Prod.fst) := by
  rw [getD_snapshot, ← names_shown]
  have apart : ((shown context.entries).map Prod.fst).Nodup := by
    rw [names_shown]
    exact distinct
  exact (Json.Members.perm_ofList apart).map Prod.fst

/-- What is sent under a name hangs on no other. -/
theorem get?_snapshot_insert {name other : String} (distinct : context.Distinct)
    (apart : other ≠ name) (value : Value) :
    ((context.insert name value).snapshot.1.getD []).get? other =
      (context.snapshot.1.getD []).get? other := by
  rw [get?_snapshot (distinct.insert name value), get?_snapshot distinct]
  cases tagged : (Call.put name value).tag? with
  | some text =>
    rw [insert_of_tagged tagged]
    rfl
  | none =>
    have same : (context.insert name value).get? other = context.get? other := by
      rw [insert_of_untagged tagged, get?, lookup_putEntry, if_neg apart]
      rfl
    rw [same]

/-- What is sent of a context. -/
structure Sends (context : Context) (sent : Option Json.Members) : Prop where
  none_iff : sent = none ↔ context.entries = []
  sorted : (sent.getD []).Sorted
  names : ((sent.getD []).map Prod.fst).Perm (context.entries.map Prod.fst)
  values : ∀ name value, context.get? name = some value →
    ∃ json, (sent.getD []).get? name = some json ∧ value.Sends json

theorem sends_snapshot (distinct : context.Distinct) : context.Sends context.snapshot.1 := by
  refine ⟨?_, ?_, names_snapshot distinct, ?_⟩
  · rw [members_snapshot]
    split <;> simp_all
  · rw [getD_snapshot]
    exact .ofList _
  · intro name value held
    refine ⟨(value.snapshot name).1, ?_, value.sends_snapshot name⟩
    rw [get?_snapshot distinct, held]
    rfl

theorem last_values_kept (calls : List Call) :
    Holds calls (ofCalls calls) ∧ ((ofCalls calls).entries.map Prod.fst).Nodup ∧
      (ofCalls calls).Sends (ofCalls calls).snapshot.1 ∧
      (ofCalls calls).snapshot.2 = (ofCalls calls).entries.filterMap complaint? ∧
      ∀ name value other, other ≠ name →
        (((ofCalls calls).insert name value).snapshot.1.getD []).get? other =
          ((ofCalls calls).snapshot.1.getD []).get? other := by
  have distinct := (built_ofCalls calls).distinct
  exact ⟨holds_ofCalls calls, distinct, sends_snapshot distinct, journal_snapshot _,
    fun name value other apart => get?_snapshot_insert distinct apart value⟩

end Context

end FeedMonitor
