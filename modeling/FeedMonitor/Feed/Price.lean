import FeedMonitor.Feed.Symbols
import FeedMonitor.Feed.Timestamp
import FeedMonitor.Json.Traversal

/-!
Prices in payloads of any shape.

A price update is read from the first object, in the order of a walk, that names a subscribed symbol
and has a positive price under one of the price names.
-/

namespace FeedMonitor.Feed

/-- The members that hold a price, best first. -/
def priceNames : List String :=
  ["mark_price", "last_price", "price", "close_price", "fair_price", "spot_price"]

def symbolNames : List String := ["symbol", "product_symbol", "market"]

def timeNames : List String := ["timestamp", "time", "server_time"]

structure PriceUpdate where
  symbol : String
  price : Binary64
  time : Option Instant
deriving DecidableEq

/-- The first text that is not blank among the members that name a symbol. -/
def symbolOf? (members : Json.Members) : Option String :=
  (symbolNames.findSome? fun name =>
    ((members.get? name).bind Json.asString?).bind Text.nonBlank?).map Text.upper

/-- A number, or a text that is one. -/
def numberOf? : Json → Option Binary64
  | .number n => n.toReal?
  | .string text => Numeral.real? (Text.trim text)
  | _ => none

def priceOf? (value : Json) : Option Binary64 :=
  (numberOf? value).filter Binary64.isPositive

/-- The update that one object carries. -/
def updateOf? (symbols : SymbolSet) (members : Json.Members) : Option PriceUpdate := do
  let symbol ← symbolOf? members
  if !symbols.contains symbol then none
  let price ← priceNames.findSome? fun name => (members.get? name).bind priceOf?
  return ⟨symbol, price, timeNames.findSome? fun name => (members.get? name).bind instantOf?⟩

def priceVisitor (symbols : SymbolSet) : Json.Visitor Unit PriceUpdate
  | (), .object members => (updateOf? symbols members, ())
  | (), .scalar _ => (none, ())

/-- The first price in `payload` for one of `symbols`. -/
def extractPrice? (symbols : SymbolSet) (payload : Json) : Option PriceUpdate :=
  (Json.walk (priceVisitor symbols) () payload).1

end FeedMonitor.Feed
