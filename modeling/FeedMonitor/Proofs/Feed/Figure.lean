import FeedMonitor.Proofs.Feed.Alias

/-!
The figures of a quote.

A figure is read from the first value under its names that is not hollow. A number that is zero makes
way for the next name, and so does what is empty. Any other text does not, whatever it stands for: a
figure is zero exactly if the first value that is not hollow is a text that stands for zero.
-/

namespace FeedMonitor.Feed

inductive Figure
  | markPrice
  | lastPrice
  | bestBid
  | bestAsk
  | bestBidSize
  | bestAskSize
deriving DecidableEq

namespace Figure

/-- The names of a figure in a ticker. -/
def names : Figure → List String
  | markPrice => ["mark_price", "fair_price"]
  | lastPrice => ["last_price", "close_price"]
  | bestBid => ["best_bid_price", "bid_price"]
  | bestAsk => ["best_ask_price", "ask_price"]
  | bestBidSize => ["best_bid_size"]
  | bestAskSize => ["best_ask_size"]

/-- The names of a figure in the object that a ticker has under `quotes`. -/
def nestedNames : Figure → List String
  | markPrice | lastPrice => []
  | bestBid => ["best_bid", "bid"]
  | bestAsk => ["best_ask", "ask"]
  | bestBidSize => ["bid_size", "best_bid_size"]
  | bestAskSize => ["ask_size", "best_ask_size"]

def isSize : Figure → Bool
  | markPrice | lastPrice | bestBid | bestAsk => false
  | bestBidSize | bestAskSize => true

/-- What stands under the names of a figure. Nested names go first, and sizes have no others where
there is an object under `quotes`. -/
def values (figure : Figure) (members : Json.Members) : List (Option Json) :=
  match (members.get? "quotes").bind Json.asObject? with
  | some quotes =>
    under quotes figure.nestedNames ++ if figure.isSize then [] else under members figure.names
  | none => under members figure.names

end Figure

def Quote.figure (quote : Quote) : Figure → Option Binary64
  | .markPrice => quote.markPrice
  | .lastPrice => quote.lastPrice
  | .bestBid => quote.bestBid
  | .bestAsk => quote.bestAsk
  | .bestBidSize => quote.bestBidSize
  | .bestAskSize => quote.bestAskSize

variable {members : Json.Members} {quote : Quote}

/-- A quote says what a ticker says. -/
structure Quote.Tells (members : Json.Members) (quote : Quote) : Prop where
  symbol : Names members quote.symbol
  figure : ∀ figure x, quote.figure figure = some x ↔
    ∃ value, Leads (figure.values members) value ∧ Denotes value x
  time : ∀ time, quote.time = some time ↔
    ∃ value, Leads (under members timeNames) value ∧ instantOf? value = some time
  raw : quote.raw = members

/-! ### Reading a ticker -/

theorem Figure.findSome?_values (figure : Figure) (members : Json.Members) :
    ((figure.values members).findSome? fun held => held.filter isPresent) =
      match (members.get? "quotes").bind Json.asObject? with
      | some quotes =>
        (firstPresent? quotes figure.nestedNames).or
          (if figure.isSize then none else firstPresent? members figure.names)
      | none => firstPresent? members figure.names := by
  unfold values
  cases (members.get? "quotes").bind Json.asObject? with
  | none => exact (firstPresent?_eq members figure.names).symm
  | some quotes =>
    simp only [List.findSome?_append, firstPresent?_eq]
    cases figure.isSize <;> rfl

theorem Figure.values_of_outer {figure : Figure} (outer : figure.nestedNames = [])
    (kept : figure.isSize = false) (members : Json.Members) :
    figure.values members = under members figure.names := by
  unfold values
  cases (members.get? "quotes").bind Json.asObject? with
  | none => rfl
  | some quotes =>
    rw [outer, kept]
    rfl

theorem exists_ofTicker? {symbol : String} (names : Names members symbol) :
    ∃ quote, Quote.ofTicker? members = some quote := by
  cases read : Quote.ofTicker? members with
  | none =>
    have unnamed := Quote.symbolOf?_eq_none read
    rw [names_iff.mp names] at unnamed
    cases unnamed
  | some quote => exact ⟨quote, rfl⟩

theorem Quote.figure_ofTicker? (read : Quote.ofTicker? members = some quote) (figure : Figure) :
    quote.figure figure =
      ((figure.values members).findSome? fun held => held.filter isPresent).bind numberOf? := by
  unfold Quote.ofTicker? at read
  obtain ⟨symbol, -, made⟩ := Option.bind_eq_some_iff.mp read
  rw [figure.findSome?_values]
  cases nested : (members.get? "quotes").bind Json.asObject? with
  | none =>
    simp only [nested] at made
    obtain rfl := Option.some.inj made
    cases figure <;> rfl
  | some quotes =>
    simp only [nested] at made
    obtain rfl := Option.some.inj made
    cases figure with
    | markPrice | lastPrice => rfl
    | bestBid | bestAsk => simp [Quote.figure, Figure.nestedNames, Figure.names, Figure.isSize]
    | bestBidSize | bestAskSize => simp [Quote.figure, Figure.nestedNames, Figure.isSize]

theorem Quote.tells_of_ofTicker? (read : Quote.ofTicker? members = some quote) :
    quote.Tells members := by
  have named := names_iff.mpr (symbolOf?_of_ofTicker? read)
  have figures := figure_ofTicker? read
  unfold Quote.ofTicker? at read
  obtain ⟨symbol, -, made⟩ := Option.bind_eq_some_iff.mp read
  obtain rfl := Option.some.inj made
  refine ⟨named, ?_, ?_, rfl⟩
  · intro figure x
    rw [figures, Option.bind_eq_some_iff]
    simp only [findSome?_filter_eq_some_iff, numberOf?_eq_some_iff]
  · intro time
    simp only [Option.bind_eq_some_iff, firstPresent?_eq_some_iff]

/-! ### Zero -/

theorem Hollow.not_denotes {value : Json} {x : Binary64} (hollow : Hollow value)
    (differs : x.isZero = false) : ¬Denotes value x := by
  intro denotes
  cases denotes with
  | number nearest =>
    cases hollow with
    | zero sameNumber zero =>
      rw [nearest] at sameNumber
      obtain rfl := Option.some.inj sameNumber
      rw [zero] at differs
      cases differs
  | text numeral =>
    cases hollow with
    | text =>
      have unread : Numeral.real? (Text.trim "") = none := by decide
      rw [unread] at numeral
      cases numeral

theorem Denotes.exists_text {value : Json} {zero : Binary64} (denotes : Denotes value zero)
    (isZero : zero.isZero = true) (holds : ¬Hollow value) : ∃ text, value = .string text := by
  cases denotes with
  | number nearest => exact absurd (.zero nearest isZero) holds
  | text numeral => exact ⟨_, rfl⟩

theorem figure_zero_law (read : Quote.ofTicker? members = some quote) (figure : Figure) :
    (∀ zero, zero.isZero = true →
      (quote.figure figure = some zero ↔
        ∃ text, Leads (figure.values members) (.string text) ∧ Denotes (.string text) zero)) ∧
    ∀ front value back x, figure.values members = front ++ some value :: back →
      (∀ other, some other ∈ front → Hollow other) → Denotes value x → x.isZero = false →
        quote.figure figure = some x := by
  have tells := Quote.tells_of_ofTicker? read
  constructor
  · intro zero isZero
    rw [tells.figure]
    constructor
    · rintro ⟨value, leads, denotes⟩
      have holds : ¬Hollow value := by
        obtain ⟨-, -, -, holds, -⟩ := leads
        exact holds
      obtain ⟨text, rfl⟩ := denotes.exists_text isZero holds
      exact ⟨text, leads, denotes⟩
    · rintro ⟨text, leads, denotes⟩
      exact ⟨.string text, leads, denotes⟩
  · intro front value back x split hollow denotes differs
    have holds : ¬Hollow value := fun hollow => hollow.not_denotes differs denotes
    rw [tells.figure]
    exact ⟨value, ⟨front, back, split, holds, hollow⟩, denotes⟩

/-- Zero as a text before another price, and as a number before another bid. -/
def zeroTicker : Json.Members :=
  [("fair_price", .string "2500.1"), ("mark_price", .string "0.00"),
    ("quotes", .object [("best_bid", .ofNat 0), ("bid", .string "63995")]),
    ("symbol", .string "BTCUSD")]

theorem markPrice_zeroTicker :
    (Quote.ofTicker? zeroTicker).map Quote.markPrice = some (some (.zero false)) := by
  decide +kernel

theorem figure_zero_law_zeroTicker :
    ∃ quote bid, Quote.ofTicker? zeroTicker = some quote ∧
      (∃ text, Leads (Figure.markPrice.values zeroTicker) (.string text) ∧
        Denotes (.string text) (.zero false)) ∧
      Denotes (.string "63995") bid ∧ quote.figure .bestBid = some bid := by
  obtain ⟨quote, read, mark⟩ := Option.map_eq_some_iff.mp markPrice_zeroTicker
  have numeral : Denotes (.string "63995") ⟨false, 0x40ef3f6000000000, by decide⟩ :=
    .text (by decide +kernel)
  have zero : Hollow (.ofNat 0) := .zero (show _ = some (.zero false) by decide) (by decide)
  refine ⟨quote, _, read, ?_, numeral, ?_⟩
  · exact ((figure_zero_law read .markPrice).1 (.zero false) (by decide)).mp mark
  · refine (figure_zero_law read .bestBid).2 [some (.ofNat 0)] (.string "63995") [none, none] _ rfl
      ?_ numeral (by decide)
    intro other member
    obtain rfl := Option.some.inj (List.mem_singleton.mp member)
    exact zero

/-- A text that stands for zero is kept, and the next name is not looked at. -/
theorem text_zero_kept :
    (¬∀ members quote, Quote.ofTicker? members = some quote →
      ∀ figure x, quote.figure figure = some x → x.isZero = false) ∧
    ¬∀ members quote, Quote.ofTicker? members = some quote →
      ∀ (figure : Figure) front value back x, figure.values members = front ++ some value :: back →
        (∀ other, some other ∈ front → (Hollow other ∧ other ≠ .bool false) ∨
          ∃ zero, Denotes other zero ∧ zero.isZero = true) →
        Denotes value x → x.isZero = false → quote.figure figure = some x := by
  obtain ⟨quote, read, mark⟩ := Option.map_eq_some_iff.mp markPrice_zeroTicker
  constructor
  · intro never
    exact absurd (never zeroTicker quote read .markPrice (.zero false) mark) (by decide)
  · intro next
    have fair : Denotes (.string "2500.1") ⟨false, 0x40a3883333333333, by decide⟩ :=
      .text (by decide +kernel)
    have zero : Denotes (.string "0.00") (.zero false) := .text (by decide +kernel)
    have found := next zeroTicker quote read .markPrice [some (.string "0.00")] (.string "2500.1")
      [] _ rfl ?_ fair (by decide)
    · exact absurd (mark.symm.trans found) (by decide)
    · intro other member
      obtain rfl := Option.some.inj (List.mem_singleton.mp member)
      exact .inr ⟨_, zero, by decide⟩

end FeedMonitor.Feed
