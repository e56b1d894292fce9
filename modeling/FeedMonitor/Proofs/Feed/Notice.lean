import FeedMonitor.Feed.Intake
import FeedMonitor.Proofs.Feed.Alias

/-!
What becomes of the errors and warnings of the feed.

A frame that calls itself an error or a warning is logged with one line, unless it has an envelope.
Then it is taken for the tickers in there and not logged, whatever it calls itself.
-/

namespace FeedMonitor.Feed

/-- A value that is an envelope, and the objects in it. -/
inductive Wraps : Json → List Json.Members → Prop
  | object (inner : Json.Members) : Wraps (.object inner) [inner]
  | array (items : List Json) : Wraps (.array items) (items.filterMap Json.asObject?)

/-- The first value under the names of envelopes that is not hollow is one. -/
def Enveloped (members : Json.Members) (tickers : List Json.Members) : Prop :=
  ∃ value, Leads (under members envelopeNames) value ∧ Wraps value tickers

/-- The frame is of a type that errors and warnings have. -/
def IsComplaint (members : Json.Members) : Prop :=
  members.get? "type" = some (.string "error") ∨ members.get? "type" = some (.string "warning")

def warnings (journal : Journal) : Journal := journal.filter fun entry => entry.severity = .warn

/-- The line that a frame is logged with. -/
def complaint (members : Json.Members) : Journal.Entry :=
  Journal.feed .warn ("Ticker stream message: " ++ (Json.object members).render)

variable {members : Json.Members} {tickers : List Json.Members}

/-! ### Envelopes -/

theorem Wraps.unique {value : Json} {other : List Json.Members} (wraps : Wraps value tickers)
    (again : Wraps value other) : tickers = other := by
  cases wraps <;> cases again <;> rfl

theorem Enveloped.unique {other : List Json.Members} (enveloped : Enveloped members tickers)
    (again : Enveloped members other) : tickers = other := by
  obtain ⟨value, leads, wraps⟩ := enveloped
  obtain ⟨otherValue, otherLeads, otherWraps⟩ := again
  obtain rfl := leads.unique otherLeads
  exact wraps.unique otherWraps

theorem IsComplaint.isNotice (complains : IsComplaint members) : isNotice members = true := by
  unfold Feed.isNotice typeOf?
  rcases complains with typed | typed <;> rw [typed] <;> rfl

theorem IsComplaint.noTicker (complains : IsComplaint members) :
    SymbolSet.tickerChannel.toList.isPrefixOf (Text.lower ((typeOf? members).getD "")).toList =
      false := by
  unfold typeOf?
  rcases complains with typed | typed <;> rw [typed] <;> decide +kernel

theorem IsComplaint.classify_cases (complains : IsComplaint members) :
    (∃ tickers, Enveloped members tickers ∧
      Message.classify (.object members) = .tickers tickers) ∨
    (¬∃ tickers, Enveloped members tickers) ∧
      Message.classify (.object members) = .notice members := by
  simp only [Message.classify, complains.noTicker, complains.isNotice]
  cases led : firstPresent? members envelopeNames with
  | none =>
    refine .inr ⟨?_, rfl⟩
    rintro ⟨tickers, value, leads, -⟩
    rw [firstPresent?_eq_some_iff.mpr leads] at led
    cases led
  | some value =>
    have leads := firstPresent?_eq_some_iff.mp led
    cases value with
    | object inner => exact .inl ⟨_, ⟨_, leads, .object inner⟩, rfl⟩
    | array items => exact .inl ⟨_, ⟨_, leads, .array items⟩, rfl⟩
    | null | bool _ | number _ | string _ =>
      refine .inr ⟨?_, rfl⟩
      rintro ⟨tickers, other, otherLeads, wraps⟩
      obtain rfl := leads.unique otherLeads
      cases wraps

/-! ### The log -/

theorem warnings_append (front back : Journal) :
    warnings (front ++ back) = warnings front ++ warnings back := List.filter_append front back

theorem warnings_takePrice (store : Store) (symbols : SymbolSet) (payload : Json) :
    warnings (store.takePrice symbols payload).2 = [] := by
  unfold Store.takePrice
  split <;> rfl

theorem warnings_takePayload (store : Store) (symbols : SymbolSet) (payload : Json) :
    warnings (store.takePayload symbols payload).2 =
      match Message.classify payload with
      | .notice object => [complaint object]
      | .tickers _ | .ignored => [] := by
  unfold Store.takePayload
  cases Message.classify payload with
  | tickers objects => exact warnings_takePrice _ symbols payload
  | notice object =>
    have quiet := warnings_takePrice store symbols payload
    simp only [warnings_append, quiet]
    rfl
  | ignored => exact warnings_takePrice _ symbols payload

theorem complaint_law (complains : IsComplaint members) :
    (Message.classify (.object members) = .notice members ↔ ¬∃ tickers, Enveloped members tickers) ∧
    (∀ tickers, Message.classify (.object members) = .tickers tickers ↔
      Enveloped members tickers) ∧
    Message.classify (.object members) ≠ .ignored ∧
    ∀ (store : Store) (symbols : SymbolSet),
      ((¬∃ tickers, Enveloped members tickers) →
        warnings (store.takePayload symbols (.object members)).2 = [complaint members]) ∧
      ((∃ tickers, Enveloped members tickers) →
        warnings (store.takePayload symbols (.object members)).2 = []) := by
  simp only [warnings_takePayload]
  rcases complains.classify_cases with ⟨held, enveloped, classified⟩ | ⟨bare, classified⟩
  · rw [classified]
    refine ⟨⟨nofun, fun bare => absurd ⟨held, enveloped⟩ bare⟩, ?_, nofun, ?_⟩
    · intro tickers
      constructor
      · rintro ⟨rfl⟩
        exact enveloped
      · intro again
        rw [enveloped.unique again]
    · intro store symbols
      exact ⟨fun bare => absurd ⟨held, enveloped⟩ bare, fun _ => rfl⟩
  · rw [classified]
    refine ⟨⟨fun _ => bare, fun _ => rfl⟩, ?_, nofun, ?_⟩
    · intro tickers
      exact ⟨nofun, fun enveloped => absurd ⟨tickers, enveloped⟩ bare⟩
    · intro store symbols
      exact ⟨fun _ => rfl, fun enveloped => absurd enveloped bare⟩

/-- A warning with a text for its first envelope and tickers in a later one. -/
def textualWarning : Json.Members :=
  [("data", .null), ("payload", .string "slow consumer"),
    ("result", .array [.object [("symbol", .string "BTCUSD")]]), ("type", .string "warning")]

theorem complaint_law_textual :
    IsComplaint textualWarning ∧
    Message.classify (.object textualWarning) = .notice textualWarning ∧
    warnings (Store.empty.takePayload .empty (.object textualWarning)).2 =
      [complaint textualWarning] := by
  have complains : IsComplaint textualWarning := .inr rfl
  have led : Leads (under textualWarning envelopeNames) (.string "slow consumer") :=
    firstPresent?_eq_some_iff.mp rfl
  have bare : ¬∃ tickers, Enveloped textualWarning tickers := by
    rintro ⟨tickers, value, leads, wraps⟩
    obtain rfl := led.unique leads
    cases wraps
  have law := complaint_law complains
  exact ⟨complains, law.1.mpr bare, (law.2.2.2 .empty .empty).1 bare⟩

/-- An error with particulars under the name of an envelope. -/
def detailedError : Json.Members :=
  [("data", .object [("code", .ofNat 4001)]), ("message", .string "invalid channel"),
    ("type", .string "error")]

theorem detailed_error_unlogged :
    Message.classify (.object detailedError) = .tickers [[("code", .ofNat 4001)]] ∧
    (Store.empty.takePayload .empty (.object detailedError)).2 = [] ∧
    ¬∀ members, IsComplaint members → Message.classify (.object members) = .notice members := by
  have complains : IsComplaint detailedError := .inl rfl
  have classified : Message.classify (.object detailedError) = .tickers [[("code", .ofNat 4001)]] := by
    simp only [Message.classify, complains.noTicker]
    rfl
  refine ⟨classified, ?_, ?_⟩
  · decide +kernel
  · intro always
    have notice := always detailedError complains
    rw [classified] at notice
    cases notice

end FeedMonitor.Feed
