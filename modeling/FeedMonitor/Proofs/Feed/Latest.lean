import FeedMonitor.Feed.Intake
import Mathlib.Data.List.Dedup
import Mathlib.Data.List.Induction

/-!
The store holds the latest quote of every symbol and the latest price.

What a store holds after any frames is read off the frames alone: their tickers make up one list,
in which the last ticker of a symbol counts, and their prices another.
-/

namespace FeedMonitor.Feed

/-- A frame of text, and the symbols that are subscribed to when it comes. -/
structure Frame where
  symbols : SymbolSet
  text : String

namespace Frame

/-- The ticker objects of a frame, in order. What is no JSON has none. -/
def tickers (frame : Frame) : List Json.Members :=
  match Json.parse frame.text with
  | .ok payload =>
    match Message.classify payload with
    | .tickers objects => objects
    | .notice _ | .ignored => []
  | .error _ => []

/-- The price that a frame has for one of the symbols. -/
def price? (frame : Frame) : Option PriceUpdate :=
  match Json.parse frame.text with
  | .ok payload => extractPrice? frame.symbols payload
  | .error _ => none

end Frame

/-- The last ticker object that names `symbol`. -/
def lastTicker? (symbol : String) (tickers : List Json.Members) : Option Json.Members :=
  (tickers.filter fun object => symbolOf? object = some symbol).getLast?

namespace Store

/-! ### One quote -/

theorem lookup_putQuote_eq (symbol other : String) (quote : Quote) (quotes : List (String × Quote)) :
    (putQuote symbol quote quotes).lookup other =
      if other = symbol then some quote else quotes.lookup other := by
  split
  · rename_i same
    rw [same, lookup_putQuote]
  · rename_i differ
    exact lookup_putQuote_of_ne differ quote quotes

theorem names_putQuote (symbol : String) (quote : Quote) (quotes : List (String × Quote)) :
    (putQuote symbol quote quotes).map Prod.fst =
      if symbol ∈ quotes.map Prod.fst then quotes.map Prod.fst
      else quotes.map Prod.fst ++ [symbol] := by
  induction quotes with
  | nil => simp [putQuote]
  | cons entry rest ih =>
    obtain ⟨other, held⟩ := entry
    by_cases same : other = symbol
    · simp [putQuote, same]
    · have apart : symbol ≠ other := fun back => same back.symm
      simp only [putQuote, same, if_false, List.map_cons, List.mem_cons, apart, false_or, ih]
      split <;> rfl

/-! ### Tickers -/

theorem lastPrice_insertTickers (store : Store) (tickers : List Json.Members) :
    (store.insertTickers tickers).lastPrice = store.lastPrice := by
  unfold insertTickers
  exact List.foldlRecOn (motive := fun held : Store => held.lastPrice = store.lastPrice)
    _ _ rfl fun held same quote _ => same

theorem insertTickers_append (store : Store) (front back : List Json.Members) :
    store.insertTickers (front ++ back) = (store.insertTickers front).insertTickers back := by
  rw [insertTickers, insertTickers, insertTickers, List.filterMap_append, List.foldl_append]

/-- The quotes under the names do not hang on the price. -/
theorem quotes_insertTickers (store : Store) (price : Option PriceUpdate)
    (tickers : List Json.Members) :
    (insertTickers ⟨store.quotes, price⟩ tickers).quotes = (store.insertTickers tickers).quotes := by
  unfold insertTickers
  induction tickers.filterMap Quote.ofTicker? generalizing store with
  | nil => rfl
  | cons quote rest ih => exact ih (store.insert quote)

theorem insertTickers_concat (store : Store) (tickers : List Json.Members) (object : Json.Members) :
    store.insertTickers (tickers ++ [object]) =
      match Quote.ofTicker? object with
      | some quote => (store.insertTickers tickers).insert quote
      | none => store.insertTickers tickers := by
  rw [insertTickers_append]
  cases read : Quote.ofTicker? object with
  | none => rw [insertTickers, List.filterMap_cons_none read]; rfl
  | some quote => rw [insertTickers, List.filterMap_cons_some read]; rfl

theorem lastTicker?_concat (symbol : String) (tickers : List Json.Members) (object : Json.Members) :
    lastTicker? symbol (tickers ++ [object]) =
      if symbolOf? object = some symbol then some object else lastTicker? symbol tickers := by
  unfold lastTicker?
  by_cases same : symbolOf? object = some symbol
  · simp [same]
  · simp [same]

/-- The last ticker of a symbol counts, and what the store held counts if there is none. -/
theorem lookup_insertTickers (store : Store) (tickers : List Json.Members) (symbol : String) :
    (store.insertTickers tickers).quotes.lookup symbol =
      ((lastTicker? symbol tickers).bind Quote.ofTicker?).or (store.quotes.lookup symbol) := by
  -- The last ticker is the one that is put in last.
  induction tickers using List.reverseRecOn with
  | nil => rfl
  | append_singleton front object ih =>
    rw [insertTickers_concat, lastTicker?_concat]
    cases read : Quote.ofTicker? object with
    | none =>
      have unnamed := Quote.symbolOf?_eq_none read
      simpa [unnamed] using ih
    | some quote =>
      have named := Quote.symbolOf?_of_ofTicker? read
      simp only [insert, lookup_putQuote_eq, named, Option.some.injEq]
      by_cases same : symbol = quote.symbol
      · simp [same, read]
      · have apart : quote.symbol ≠ symbol := fun back => same back.symm
        simpa [same, apart] using ih

theorem nodup_insertTickers (tickers : List Json.Members) :
    ((empty.insertTickers tickers).quotes.map Prod.fst).Nodup := by
  induction tickers using List.reverseRecOn with
  | nil => exact List.nodup_nil
  | append_singleton front object ih =>
    rw [insertTickers_concat]
    split
    · rename_i quote read
      simp only [insert, names_putQuote]
      split
      · exact ih
      · rename_i new
        refine List.nodup_append.mpr ⟨ih, List.nodup_singleton _, ?_⟩
        intro other member symbol here same
        rw [List.mem_singleton.mp here] at same
        exact new (same ▸ member)
    · exact ih

theorem mem_names_insertTickers (tickers : List Json.Members) (symbol : String) :
    symbol ∈ (empty.insertTickers tickers).quotes.map Prod.fst ↔
      symbol ∈ tickers.filterMap symbolOf? := by
  induction tickers using List.reverseRecOn with
  | nil => simp [insertTickers, empty]
  | append_singleton front object ih =>
    rw [insertTickers_concat, List.filterMap_append, List.mem_append, ← ih]
    cases read : Quote.ofTicker? object with
    | none =>
      have unnamed := Quote.symbolOf?_eq_none read
      simp [unnamed]
    | some quote =>
      have named := Quote.symbolOf?_of_ofTicker? read
      simp only [insert, names_putQuote, List.filterMap_cons_some named, List.filterMap_nil]
      split
      · rename_i known
        constructor
        · exact .inl
        · rintro (member | here)
          · exact member
          · rwa [List.mem_singleton.mp here]
      · exact List.mem_append

/-- Each symbol that was named has one quote. -/
theorem perm_names_insertTickers (tickers : List Json.Members) :
    ((empty.insertTickers tickers).quotes.map Prod.fst).Perm
      (tickers.filterMap symbolOf?).dedup := by
  refine (List.perm_ext_iff_of_nodup (nodup_insertTickers tickers) (List.nodup_dedup _)).mpr ?_
  intro symbol
  rw [mem_names_insertTickers, List.mem_dedup]

/-! ### Frames -/

/-- A store after frames of text. -/
def takeFrames (store : Store) (frames : List Frame) : Store :=
  frames.foldl (fun held frame => (held.takeText frame.symbols frame.text).1) store

theorem takeFrames_concat (store : Store) (frames : List Frame) (frame : Frame) :
    store.takeFrames (frames ++ [frame]) =
      ((store.takeFrames frames).takeText frame.symbols frame.text).1 := by
  simp [takeFrames]

theorem takePrice_eq (store : Store) (symbols : SymbolSet) (payload : Json) :
    (store.takePrice symbols payload).1 =
      ⟨store.quotes, (extractPrice? symbols payload).or store.lastPrice⟩ := by
  unfold takePrice
  split <;> simp_all [recordPrice]

theorem takeText_eq (store : Store) (frame : Frame) :
    (store.takeText frame.symbols frame.text).1 =
      ⟨(store.insertTickers frame.tickers).quotes, frame.price?.or store.lastPrice⟩ := by
  unfold takeText Frame.tickers Frame.price?
  cases Json.parse frame.text with
  | error fault => rfl
  | ok payload =>
    simp only [takePayload, takePrice_eq]
    cases Message.classify payload with
    | tickers objects => simp only [lastPrice_insertTickers]
    | notice object => rfl
    | ignored => rfl

theorem takeFrames_eq (frames : List Frame) :
    empty.takeFrames frames =
      ⟨(empty.insertTickers (frames.flatMap Frame.tickers)).quotes,
        (frames.filterMap Frame.price?).getLast?⟩ := by
  induction frames using List.reverseRecOn with
  | nil => rfl
  | append_singleton front frame ih =>
    have tickers : (front ++ [frame]).flatMap Frame.tickers =
        front.flatMap Frame.tickers ++ frame.tickers := by simp
    have prices : ((front ++ [frame]).filterMap Frame.price?).getLast? =
        frame.price?.or (front.filterMap Frame.price?).getLast? := by
      cases price : frame.price? <;> simp [price]
    rw [takeFrames_concat, takeText_eq, ih, tickers, prices, insertTickers_append,
      quotes_insertTickers]

theorem quote?_takeText (store : Store) (frame : Frame) (text : String) :
    (store.takeText frame.symbols frame.text).1.quote? text =
      ((lastTicker? (Text.upper (Text.trim text)) frame.tickers).bind Quote.ofTicker?).or
        (store.quote? text) := by
  rw [takeText_eq]
  exact lookup_insertTickers store frame.tickers _

/-- What one frame leaves as it is. -/
structure Keeps (store : Store) (frame : Frame) (next : Store) : Prop where
  other : ∀ fault, Json.parse frame.text = .error fault → next = store
  quotes : ∀ text, (store.quote? text).isSome → (next.quote? text).isSome
  price : store.lastPrice.isSome → next.lastPrice.isSome

theorem keeps_takeText (store : Store) (frame : Frame) :
    store.Keeps frame (store.takeText frame.symbols frame.text).1 where
  other fault unread := by rw [takeText, unread]
  quotes text held := by
    rw [quote?_takeText, Option.isSome_or, held, Bool.or_true]
  price held := by
    rw [takeText_eq, Option.isSome_or, held, Bool.or_true]

theorem holds_latest (frames : List Frame) :
    (∀ text, (empty.takeFrames frames).quote? text =
      (lastTicker? (Text.upper (Text.trim text)) (frames.flatMap Frame.tickers)).bind
        Quote.ofTicker?) ∧
    ((empty.takeFrames frames).quotes.map Prod.fst).Perm
      ((frames.flatMap Frame.tickers).filterMap symbolOf?).dedup ∧
    (empty.takeFrames frames).size =
      ((frames.flatMap Frame.tickers).filterMap symbolOf?).dedup.length ∧
    (empty.takeFrames frames).lastPrice = (frames.filterMap Frame.price?).getLast? ∧
    ∀ (store : Store) (frame : Frame),
      store.Keeps frame (store.takeText frame.symbols frame.text).1 := by
  have names := perm_names_insertTickers (frames.flatMap Frame.tickers)
  rw [takeFrames_eq]
  refine ⟨?_, names, ?_, rfl, keeps_takeText⟩
  · intro text
    have found := lookup_insertTickers empty (frames.flatMap Frame.tickers)
      (Text.upper (Text.trim text))
    rwa [show empty.quotes = [] from rfl, List.lookup_nil, Option.or_none] at found
  · have length := names.length_eq
    rwa [List.length_map] at length

/-- An envelope with two tickers, a later ticker of the first symbol when it is not subscribed to any
more, and a text that is no JSON. -/
def crossedFrames : List Frame :=
  [⟨.ofNames ["BTCUSD"],
      "\x7b\"data\":[\x7b\"symbol\":\"BTCUSD\",\"mark_price\":\"100\"\x7d," ++
        "\x7b\"symbol\":\"ETHUSD\",\"mark_price\":\"5\"\x7d]\x7d"⟩,
    ⟨.ofNames ["ETHUSD"],
      "\x7b\"type\":\"v2/ticker\",\"product_symbol\":\"btcusd \",\"mark_price\":101\x7d"⟩,
    ⟨.ofNames ["BTCUSD"], "mark_price 102"⟩]

/-- The later ticker counts for the quote, and the earlier one for the price. -/
theorem holds_latest_crossed :
    ((empty.takeFrames crossedFrames).quote? " Btcusd").map Quote.markPrice =
        some (numberOf? (.ofNat 101)) ∧
      (empty.takeFrames crossedFrames).size = 2 ∧
      (empty.takeFrames crossedFrames).lastPrice.map PriceUpdate.price =
        numberOf? (.string "100") ∧
      (numberOf? (.string "100")).isSome ∧ (numberOf? (.ofNat 101)).isSome := by
  obtain ⟨quotes, -, size, price, -⟩ := holds_latest crossedFrames
  rw [quotes, size, price]
  decide +kernel

end Store

end FeedMonitor.Feed
