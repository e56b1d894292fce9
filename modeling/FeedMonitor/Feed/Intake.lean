import FeedMonitor.Feed.Store
import FeedMonitor.Journal
import FeedMonitor.Json.Reader
import FeedMonitor.Number.Plain

/-!
Taking in the frames of the feed.

No frame is an error: what cannot be read goes to the log and is dropped.
-/

namespace FeedMonitor.Feed

namespace Store

/-- Puts the quotes of some tickers into the store, in order; tickers without a symbol have none. -/
def insertTickers (store : Store) (tickers : List Json.Members) : Store :=
  (tickers.filterMap Quote.ofTicker?).foldl insert store

/-- Records the price that a payload has for one of `symbols`. -/
def takePrice (store : Store) (symbols : SymbolSet) (payload : Json) : Store × Journal :=
  match extractPrice? symbols payload with
  | some update =>
    (store.recordPrice update,
      [Journal.feed .debug (update.symbol ++ " price " ++ update.price.plainText)])
  | none => (store, [])

/-- Takes in the payload of a frame. -/
def takePayload (store : Store) (symbols : SymbolSet) (payload : Json) : Store × Journal :=
  let (store, journal) : Store × Journal :=
    match Message.classify payload with
    | .tickers objects => (store.insertTickers objects, [])
    | .notice object =>
      (store, [Journal.feed .warn ("Ticker stream message: " ++ (Json.object object).render)])
    | .ignored => (store, [])
  let (store, more) := store.takePrice symbols payload
  (store, journal ++ more)

/-- Takes in a frame of text while `symbols` are subscribed to. -/
def takeText (store : Store) (symbols : SymbolSet) (text : String) : Store × Journal :=
  match Json.parse text with
  | .ok payload => store.takePayload symbols payload
  | .error _ => (store, [Journal.feed .debug ("Dropping non-JSON frame (malformed): " ++ text)])

/-- Takes in a frame of bytes, which is as good as one of text if it is UTF-8. -/
def takeBytes (store : Store) (symbols : SymbolSet) (bytes : List UInt8) : Store × Journal :=
  match String.fromUTF8? ⟨bytes.toArray⟩ with
  | some text => store.takeText symbols text
  | none =>
    (store, [Journal.feed .debug s!"Dropping non-UTF-8 binary frame of {bytes.length} bytes"])

end Store

end FeedMonitor.Feed
