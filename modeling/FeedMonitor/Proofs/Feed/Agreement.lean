import FeedMonitor.Proofs.Feed.Extraction
import FeedMonitor.Proofs.Feed.Figure

/-!
The quote of a ticker and the price update that the same object carries.

Prices are searched for under more names than the figures of a quote, and are taken where they can be
read, not where something stands. The two agree all the same, because what is hollow is neither a
price nor a time. Only in an object without an update of its own does the search go on inside.
-/

namespace FeedMonitor.Feed

/-- What a quote and the update of the same object have in common, if there is an update. -/
structure Agree (members : Json.Members) (quote : Quote) (update? : Option PriceUpdate) : Prop where
  symbol : ∀ update, update? = some update → update.symbol = quote.symbol
  found : ∀ price, price.isPositive = true →
    quote.markPrice = some price ∨ quote.lastPrice = some price → update?.isSome
  mark : ∀ value price, members.get? "mark_price" = some value → Denotes value price →
    price.isPositive = true →
      ∃ update, update? = some update ∧ update.price = price ∧ quote.markPrice = some price
  time : ∀ update time, update? = some update → quote.time = some time → update.time = some time

variable {symbols : SymbolSet} {members : Json.Members} {quote : Quote}

/-! ### What is hollow -/

theorem ofEpoch?_of_isZero {x : Binary64} (zero : x.isZero = true) : ofEpoch? x = none := by
  unfold ofEpoch?
  split
  · rename_i positive
    rw [Binary64.isZero_of_isPositive positive] at zero
    cases zero
  · rfl

theorem Hollow.instantOf?_eq_none {value : Json} (hollow : Hollow value) :
    instantOf? value = none := by
  cases hollow with
  | zero nearest zero => rw [instantOf?, nearest, Option.bind_some, ofEpoch?_of_isZero zero]
  | text => decide
  | null | untrue | array | object => rfl

/-! ### The two readings -/

theorem Quoted.of_figure (figure : Figure) {price : Binary64} (tells : quote.Tells members)
    (wanted : quote.symbol ∈ symbols.names) (isPrice : figure = .markPrice ∨ figure = .lastPrice)
    (read : quote.figure figure = some price) (positive : price.isPositive = true) :
    Quoted symbols members := by
  obtain ⟨value, ⟨front, back, split, -, -⟩, denotes⟩ := (tells.figure figure price).mp read
  have values : figure.values members = under members figure.names := by
    rcases isPrice with rfl | rfl <;> exact Figure.values_of_outer rfl rfl members
  have listed : figure.names ⊆ priceNames := by
    rcases isPrice with rfl | rfl <;> decide
  have member : some value ∈ under members figure.names := by
    rw [← values, split]
    simp
  have everywhere : under members figure.names ⊆ under members priceNames := List.map_subset _ listed
  exact ⟨⟨_, tells.symbol, wanted⟩, value, price, everywhere member, denotes, positive⟩

/-- An object is searched before those inside it. -/
theorem extractPrice?_object (symbols : SymbolSet) (members : Json.Members) :
    extractPrice? symbols (.object members) =
      (updateOf? symbols members).or
        ((objects (.object members)).tail.findSome? (updateOf? symbols)) := by
  have whole : objects (.object members) = members :: (objects (.object members)).tail := rfl
  rw [extractPrice?_eq, whole, List.findSome?_cons, List.tail_cons]
  cases updateOf? symbols members <;> rfl

theorem agree_of_tells (tells : quote.Tells members) (wanted : quote.symbol ∈ symbols.names) :
    Agree members quote (updateOf? symbols members) where
  symbol := by
    intro update found
    have carries := updateOf?_eq_some_iff.mp found
    exact carries.symbol.unique tells.symbol
  found := by
    intro price positive read
    rw [isSome_updateOf?_iff]
    rcases read with mark | last
    · exact .of_figure .markPrice tells wanted (.inl rfl) mark positive
    · exact .of_figure .lastPrice tells wanted (.inr rfl) last positive
  mark := by
    intro value price held denotes positive
    -- `mark_price` is the first name on both sides, so nothing can stand in front of it.
    have solid : ¬Hollow value := fun hollow =>
      hollow.not_denotes (Binary64.isZero_of_isPositive positive) denotes
    have leads : Leads (Figure.markPrice.values members) value := by
      refine ⟨[], [members.get? "fair_price"], ?_, solid, by simp⟩
      rw [Figure.values_of_outer rfl rfl, Figure.names, under, List.map_cons, held]
      rfl
    have mark := (tells.figure .markPrice price).mpr ⟨value, leads, denotes⟩
    have first : FirstRead priceOf? (under members priceNames) price := by
      refine ⟨[], value, under members priceNames.tail, ?_,
        priceOf?_eq_some_iff.mpr ⟨denotes, positive⟩, by simp⟩
      rw [priceNames, under, List.map_cons, held]
      rfl
    have quoted : Quoted symbols members := .of_figure .markPrice tells wanted (.inl rfl) mark positive
    obtain ⟨update, found⟩ := Option.isSome_iff_exists.mp (isSome_updateOf?_iff.mpr quoted)
    have carries := updateOf?_eq_some_iff.mp found
    exact ⟨update, found, carries.price.unique first, mark⟩
  time := by
    intro update time found read
    obtain ⟨value, leads, reads⟩ := (tells.time time).mp read
    rw [(updateOf?_eq_some_iff.mp found).time]
    exact leads.firstRead reads fun other hollow => hollow.instantOf?_eq_none

theorem quote_agrees {symbol : String} (names : Names members symbol)
    (wanted : symbol ∈ symbols.names) :
    ∃ quote, Quote.ofTicker? members = some quote ∧ quote.symbol = symbol ∧
      Agree members quote (updateOf? symbols members) ∧
      extractPrice? symbols (.object members) =
        (updateOf? symbols members).or
          ((objects (.object members)).tail.findSome? (updateOf? symbols)) := by
  obtain ⟨quote, read⟩ := exists_ofTicker? names
  have tells := Quote.tells_of_ofTicker? read
  have same : quote.symbol = symbol := tells.symbol.unique names
  exact ⟨quote, read, same, agree_of_tells tells (same ▸ wanted), extractPrice?_object symbols members⟩

/-- A ticker with names of which the first ones are of no use. -/
def shadowedTicker : Json.Members :=
  [("close_price", .ofNat 118), ("last_price", .string "n/a"), ("mark_price", .string "120.5"),
    ("product_symbol", .string " btcusd "), ("symbol", .string " "), ("time", .ofNat 1700000000),
    ("timestamp", .ofNat 0)]

theorem quote_agrees_shadowed :
    ∃ quote update, Quote.ofTicker? shadowedTicker = some quote ∧
      updateOf? (.ofNames ["BTCUSD"]) shadowedTicker = some update ∧ update.symbol = quote.symbol ∧
      quote.markPrice = some update.price ∧ quote.time = some ⟨1700000000, 0⟩ ∧
      update.time = quote.time := by
  have names : Names shadowedTicker "BTCUSD" := names_iff.mpr (by decide +kernel)
  have wanted : "BTCUSD" ∈ (SymbolSet.ofNames ["BTCUSD"]).names := by decide +kernel
  have timed : (Quote.ofTicker? shadowedTicker).map Quote.time = some (some ⟨1700000000, 0⟩) := by
    decide +kernel
  have price : Denotes (.string "120.5") ⟨false, 0x405e200000000000, by decide⟩ :=
    .text (by decide +kernel)
  obtain ⟨quote, read, -, agree, -⟩ := quote_agrees names wanted
  obtain ⟨update, found, priced, mark⟩ := agree.mark _ _ rfl price (by decide)
  have time : quote.time = some ⟨1700000000, 0⟩ := by
    rw [read] at timed
    exact Option.some.inj timed
  refine ⟨quote, update, read, found, agree.symbol update found, priced ▸ mark, time, ?_⟩
  rw [agree.time update _ found time, time]

end FeedMonitor.Feed
