import FeedMonitor.Feed.Price
import FeedMonitor.Json.Writer
import FeedMonitor.Time.Instant.Written

/-!
Quotes: the values of one ticker object.

Each field has several names, and the first that holds something counts: zero, the empty text, empty
arrays and objects, false and null are nothing.
-/

namespace FeedMonitor.Feed

structure Quote where
  symbol : String
  markPrice : Option Binary64
  lastPrice : Option Binary64
  bestBid : Option Binary64
  bestAsk : Option Binary64
  bestBidSize : Option Binary64
  bestAskSize : Option Binary64
  time : Option Instant
  /-- The ticker object as it came. -/
  raw : Json.Members

/-- Whether a value holds something. -/
def isPresent : Json → Bool
  | .null => false
  | .bool value => value
  | .number n => !(n.toReal?.any Binary64.isZero)
  | .string text => !text.isEmpty
  | .array items => !items.isEmpty
  | .object members => !members.isEmpty

def firstPresent? (members : Json.Members) (names : List String) : Option Json :=
  names.findSome? fun name => (members.get? name).filter isPresent

/-- The quote of a ticker object that names a symbol. Bids and asks in the object under `quotes` go
before those beside it, and sizes are read from there alone if there is such an object. -/
def Quote.ofTicker? (members : Json.Members) : Option Quote := do
  let symbol ← symbolOf? members
  let nested := (members.get? "quotes").bind Json.asObject?
  let outerBid := firstPresent? members ["best_bid_price", "bid_price"]
  let outerAsk := firstPresent? members ["best_ask_price", "ask_price"]
  let (bid, ask, bidSize, askSize) := match nested with
    | some quotes =>
      (firstPresent? quotes ["best_bid", "bid"] <|> outerBid,
        firstPresent? quotes ["best_ask", "ask"] <|> outerAsk,
        firstPresent? quotes ["bid_size", "best_bid_size"],
        firstPresent? quotes ["ask_size", "best_ask_size"])
    | none =>
      (outerBid, outerAsk, firstPresent? members ["best_bid_size"],
        firstPresent? members ["best_ask_size"])
  return {
    symbol
    markPrice := (firstPresent? members ["mark_price", "fair_price"]).bind numberOf?
    lastPrice := (firstPresent? members ["last_price", "close_price"]).bind numberOf?
    bestBid := bid.bind numberOf?
    bestAsk := ask.bind numberOf?
    bestBidSize := bidSize.bind numberOf?
    bestAskSize := askSize.bind numberOf?
    time := (firstPresent? members timeNames).bind instantOf?
    raw := members }

theorem Quote.symbolOf?_of_ofTicker? {object : Json.Members} {quote : Quote}
    (read : Quote.ofTicker? object = some quote) : symbolOf? object = some quote.symbol := by
  unfold Quote.ofTicker? at read
  obtain ⟨symbol, named, rest⟩ := Option.bind_eq_some_iff.mp read
  obtain rfl := Option.some.inj rest
  exact named

theorem Quote.symbolOf?_eq_none {object : Json.Members}
    (unread : Quote.ofTicker? object = none) : symbolOf? object = none := by
  unfold Quote.ofTicker? at unread
  cases named : symbolOf? object with
  | none => rfl
  | some symbol => simp [named] at unread

def realJson : Option Binary64 → Json
  | some x => .number (.real x)
  | none => .null

/-- The written form of a quote: every field, in this order. -/
def Quote.write (quote : Quote) : List Char :=
  Json.writeFields
    [("symbol", .string quote.symbol),
      ("mark_price", realJson quote.markPrice),
      ("last_price", realJson quote.lastPrice),
      ("best_bid", realJson quote.bestBid),
      ("best_ask", realJson quote.bestAsk),
      ("best_bid_size", realJson quote.bestBidSize),
      ("best_ask_size", realJson quote.bestAskSize),
      ("timestamp", (quote.time.map fun time => Json.string time.text).getD .null),
      ("raw", .object quote.raw)]

end FeedMonitor.Feed
