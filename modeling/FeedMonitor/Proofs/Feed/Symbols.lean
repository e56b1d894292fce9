import FeedMonitor.Proofs.Feed.Resubscription
import FeedMonitor.Proofs.Json.Values
import FeedMonitor.Proofs.Text.Bytes
import FeedMonitor.Proofs.Text.Trim
import Mathlib.Data.List.Sort

/-!
The symbols that somebody has asked for, as a set: what changes make of it, and the frame that
subscribes to it.

A set lists its symbols in increasing order, so sets with the same members are the same. That order
is the order of the bytes, and every text is read back from the frame as it is.
-/

namespace FeedMonitor

theorem Text.mapChar_ne_nil {runs : List CodeRun} {expansions : List (Nat × List Nat)}
    (some : ∀ expansion ∈ expansions, expansion.2 ≠ []) (c : Char) :
    mapChar runs expansions c ≠ [] := by
  unfold mapChar
  split
  · rename_i codes found
    obtain ⟨before, after, split, -⟩ := List.lookup_eq_some_iff.mp found
    have filled : codes ≠ [] := some (c.toNat, codes) (by simp [split])
    exact fun nothing => filled (List.map_eq_nil_iff.mp nothing)
  · exact List.cons_ne_nil _ _

theorem Text.upperForms_ne_nil (c : Char) : upperForms c ≠ [] := by
  unfold upperForms
  split
  · exact List.cons_ne_nil _ _
  · exact mapChar_ne_nil (by decide) c

/-- Upper case leaves something of a text if there is something. -/
theorem Text.upper_eq_empty_iff {s : String} : upper s = "" ↔ s = "" := by
  rw [upper, String.ofList_eq_empty_iff, List.flatMap_eq_nil_iff, ← String.toList_eq_nil_iff]
  constructor
  · intro nothing
    exact List.eq_nil_iff_forall_not_mem.mpr fun c member => upperForms_ne_nil c (nothing c member)
  · intro nothing c member
    rw [nothing] at member
    contradiction

namespace SymbolSet

/-! ### Members -/

def members (symbols : SymbolSet) : Set String := {name | name ∈ symbols.names}

/-- The names that are the upper case of some texts, trimmed, that are not blank. -/
def named (texts : List String) : Set String :=
  {name | ∃ text ∈ texts, ¬Text.AllBlank text.toList ∧ name = Text.upper (Text.trim text)}

variable {symbols other : SymbolSet} {texts : List String}

theorem mem_normalize {name : String} : name ∈ normalize texts ↔ name ∈ named texts := by
  have filled (text : String) :
      (Text.upper (Text.trim text)).isEmpty = false ↔ ¬Text.AllBlank text.toList := by
    rw [← Bool.not_eq_true, String.isEmpty_iff, Text.upper_eq_empty_iff, ← String.isEmpty_iff,
      Text.isEmpty_trim_iff]
  simp only [normalize, named, List.mem_filter, List.mem_map, Bool.not_eq_true', Set.mem_ofPred_eq]
  constructor
  · rintro ⟨⟨text, member, rfl⟩, some⟩
    exact ⟨text, member, (filled text).mp some, rfl⟩
  · rintro ⟨text, member, visible, rfl⟩
    exact ⟨⟨text, member, rfl⟩, (filled text).mpr visible⟩

theorem eq_of_members (same : symbols.members = other.members) : symbols = other := by
  refine eq_of_names ?_
  exact List.Pairwise.eq_of_mem_iff symbols.increasing other.increasing fun name =>
    Set.ext_iff.mp same name

theorem members_union (symbols : SymbolSet) (texts : List String) :
    (symbols.union (normalize texts)).members = symbols.members ∪ named texts := by
  ext name
  rw [members, Set.mem_ofPred_eq, mem_union, mem_normalize, or_comm]
  rfl

theorem members_ofTexts (texts : List String) : (ofTexts texts).members = named texts := by
  have nothing : empty.members = ∅ :=
    Set.eq_empty_of_forall_notMem fun name member => nomatch member
  have whole := members_union empty texts
  rwa [nothing, Set.empty_union] at whole

theorem named_congr {others : List String} (same : ∀ text, text ∈ texts ↔ text ∈ others) :
    named texts = named others := by
  ext name
  simp only [named, same]

/-! ### The frame -/

/-- The names stand in the order of their bytes, each one once. -/
theorem increasing_bytes (symbols : SymbolSet) :
    symbols.names.Pairwise fun first second => first.toUTF8.toList < second.toUTF8.toList :=
  symbols.increasing.imp Text.toUTF8_lt

def channel (symbols : SymbolSet) : Json :=
  .object [("name", .string tickerChannel), ("symbols", .array (symbols.names.map .string))]

theorem plain_channel (symbols : SymbolSet) (depth : Nat) :
    Json.Plain (depth + 2) symbols.channel := by
  have sorted : Json.Members.Sorted
      [("name", .string tickerChannel), ("symbols", .array (symbols.names.map .string))] :=
    List.pairwise_pair.mpr (by decide : "name" < "symbols")
  refine .object sorted fun member found => ?_
  rcases List.mem_pair.mp found with rfl | rfl
  · exact .string tickerChannel
  · refine .array fun item listed => ?_
    obtain ⟨name, -, rfl⟩ := List.mem_map.mp listed
    exact .string name

theorem subscribeFrame?_eq (some : symbols.names ≠ []) :
    ∃ frame, symbols.subscribeFrame? = .some frame ∧ Json.parse frame = .ok (.object
      [("payload", .object [("channels", .array [symbols.channel])]),
        ("type", .string "subscribe")]) := by
  have filled : symbols.isEmpty = false := by rwa [isEmpty, List.isEmpty_eq_false_iff]
  refine ⟨_, by simp only [subscribeFrame?, filled, Bool.false_eq_true, if_false]; rfl, ?_⟩
  have payload : Json.Plain 126 (.object [("channels", .array [symbols.channel])]) := by
    refine .object (List.pairwise_singleton _ _) fun member found => ?_
    rw [List.mem_singleton.mp found]
    exact .array fun item listed => List.mem_singleton.mp listed ▸ symbols.plain_channel 122
  have reads : ∀ member ∈ [("type", Json.string "subscribe"),
      ("payload", .object [("channels", .array [symbols.channel])])],
        Json.Reads 126 member.2.write member.2 := by
    intro member found
    rcases List.mem_pair.mp found with rfl | rfl
    · exact Json.Plain.reads (.string "subscribe")
    · exact payload.reads
  exact Json.parseWithin_of_reads (Json.reads_writeFields reads)

end SymbolSet

namespace Feed.Subscription

/-! ### Changes -/

/-- What a change makes of a set. -/
def Change.on (change : Change) (held : Set String) : Set String :=
  match change with
  | .add texts => held ∪ SymbolSet.named texts
  | .replace texts => SymbolSet.named texts

/-- Changes of one kind with the same texts, in any order and any number of times. -/
inductive Change.Alike : Change → Change → Prop
  | add {texts others : List String} (same : ∀ text, text ∈ texts ↔ text ∈ others) :
    Alike (add texts) (add others)
  | replace {texts others : List String} (same : ∀ text, text ∈ texts ↔ text ∈ others) :
    Alike (replace texts) (replace others)

variable {change other : Change} {symbols : SymbolSet}

theorem Change.members_apply (change : Change) (symbols : SymbolSet) :
    (change.apply symbols).2.members = change.on symbols.members := by
  cases change with
  | add texts => exact symbols.members_union texts
  | replace texts =>
    rw [on, ← SymbolSet.members_ofTexts, apply]
    split
    · rename_i same
      rw [same]
    · rfl

theorem Change.apply_changed_iff :
    (change.apply symbols).1 = true ↔ (change.apply symbols).2 ≠ symbols := by
  constructor
  · intro changed same
    cases change with
    | add texts =>
      have sizes : (symbols.union (SymbolSet.normalize texts)).size ≠ symbols.size := by
        simpa [apply] using changed
      exact sizes (congrArg SymbolSet.size same)
    | replace texts =>
      simp only [apply] at changed same
      split at changed
      · contradiction
      · rename_i differ
        rw [if_neg differ] at same
        exact differ same
  · intro differ
    by_contra unchanged
    exact differ (apply_of_unchanged (Bool.not_eq_true _ ▸ unchanged))

theorem Change.Alike.apply_eq (alike : change.Alike other) :
    change.apply symbols = other.apply symbols := by
  cases alike with
  | @add texts others same =>
    have grown : symbols.union (SymbolSet.normalize texts) =
        symbols.union (SymbolSet.normalize others) := SymbolSet.eq_of_members (by
      rw [SymbolSet.members_union, SymbolSet.members_union, SymbolSet.named_congr same])
    simp only [Change.apply, grown]
  | @replace texts others same =>
    have next : SymbolSet.ofTexts texts = SymbolSet.ofTexts others := SymbolSet.eq_of_members (by
      rw [SymbolSet.members_ofTexts, SymbolSet.members_ofTexts, SymbolSet.named_congr same])
    simp only [Change.apply, next]

theorem change_eq (subscription : Subscription) (change : Change) :
    subscription.change change =
      ((change.apply subscription.symbols).1,
        { subscription with
          symbols := (change.apply subscription.symbols).2
          permit := subscription.permit || (change.apply subscription.symbols).1 }) := by
  cases changed : (change.apply subscription.symbols).1 with
  | false => simp [Subscription.change, write, changed]
  | true => simp [Subscription.change, write, changed, signal?]

/-- The subscription after changes that are signalled one by one. -/
def after (subscription : Subscription) (changes : List Change) : Subscription :=
  changes.foldl (fun held change => (held.change change).2) subscription

theorem members_after (subscription : Subscription) (changes : List Change) :
    (subscription.after changes).symbols.members =
      changes.foldl (fun held change => change.on held) subscription.symbols.members := by
  induction changes generalizing subscription with
  | nil => rfl
  | cons change rest ih =>
    have step : (subscription.change change).2.symbols.members =
        change.on subscription.symbols.members := by
      rw [change_eq]
      exact change.members_apply subscription.symbols
    rw [List.foldl_cons, ← step]
    exact ih _

/-- Changes make unions and replacements of a set, each says whether it made another one and then
leaves a permit, and the frame lists a set that is not empty in the order of the bytes. -/
theorem symbols_law :
    (∀ (subscription : Subscription) (changes : List Change),
      (subscription.after changes).symbols.members =
        changes.foldl (fun held change => change.on held) subscription.symbols.members) ∧
    (∀ (subscription : Subscription) (change : Change),
      ((subscription.change change).1 = true ↔
        (subscription.change change).2.symbols.members ≠ subscription.symbols.members) ∧
      (subscription.change change).2.permit =
        (subscription.permit || (subscription.change change).1) ∧
      (subscription.change change).2.unsignalled = subscription.unsignalled) ∧
    (∀ (subscription : Subscription) (change other : Change), change.Alike other →
      subscription.change change = subscription.change other) ∧
    ∀ symbols : SymbolSet, symbols.members.Nonempty →
      ∃ frame, symbols.subscribeFrame? = some frame ∧
        Json.parse frame = .ok (.object
          [("payload", .object [("channels", .array [.object
              [("name", .string "v2/ticker"), ("symbols", .array (symbols.names.map .string))]])]),
            ("type", .string "subscribe")]) ∧
        symbols.names.Nodup ∧
        symbols.names.Pairwise fun first second => first.toUTF8.toList < second.toUTF8.toList := by
  refine ⟨members_after, fun subscription change => ?_, fun subscription change other alike => ?_,
    fun symbols some => ?_⟩
  · rw [change_eq]
    refine ⟨?_, rfl, rfl⟩
    rw [Change.apply_changed_iff, ne_eq, ne_eq, not_iff_not]
    exact ⟨congrArg SymbolSet.members, SymbolSet.eq_of_members⟩
  · rw [change_eq, change_eq, alike.apply_eq]
  · have filled : symbols.names ≠ [] := by
      obtain ⟨name, member⟩ := some
      exact List.ne_nil_of_mem member
    obtain ⟨frame, made, read⟩ := SymbolSet.subscribeFrame?_eq filled
    exact ⟨frame, made, read, symbols.increasing.imp String.ne_of_lt, symbols.increasing_bytes⟩

/-- Two texts that name one symbol, a blank one, and one that needs escapes and grows. -/
def spellings : List String := [" btcusd", "BtcUSD\t", "\u3000", "stra\u00dfe\"\n"]

theorem symbols_law_spellings :
    (Change.add spellings).Alike (.add (spellings.reverse ++ spellings)) ∧
    (ofSymbols .empty).change (.add spellings) =
      (ofSymbols .empty).change (.add (spellings.reverse ++ spellings)) ∧
    (SymbolSet.ofTexts spellings).names = ["BTCUSD", "STRASSE\""] ∧
    ∃ frame, (SymbolSet.ofTexts spellings).subscribeFrame? = some frame ∧
      Json.parse frame = .ok (.object
        [("payload", .object [("channels", .array [.object
            [("name", .string "v2/ticker"),
              ("symbols", .array [.string "BTCUSD", .string "STRASSE\""])]])]),
          ("type", .string "subscribe")]) := by
  obtain ⟨-, -, alike_same, framed⟩ := symbols_law
  have alike : (Change.add spellings).Alike (.add (spellings.reverse ++ spellings)) :=
    .add fun text => by simp
  have names : (SymbolSet.ofTexts spellings).names = ["BTCUSD", "STRASSE\""] := by decide +kernel
  have some : (SymbolSet.ofTexts spellings).members.Nonempty :=
    ⟨"BTCUSD", by rw [SymbolSet.members, Set.mem_ofPred_eq, names]; exact List.mem_cons_self⟩
  obtain ⟨frame, made, read, -⟩ := framed _ some
  rw [names] at read
  exact ⟨alike, alike_same _ _ _ alike, names, frame, made, read⟩

end Feed.Subscription

end FeedMonitor
