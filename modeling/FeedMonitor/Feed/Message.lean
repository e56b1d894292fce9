import FeedMonitor.Feed.Quote

/-!
What an incoming frame is: tickers, a notice, or nothing of interest.
-/

namespace FeedMonitor.Feed

inductive Message
  | tickers (objects : List Json.Members)
  | notice (object : Json.Members)
  | ignored

/-- The members that may wrap tickers. -/
def envelopeNames : List String := ["data", "payload", "result"]

def typeOf? (members : Json.Members) : Option String :=
  (members.get? "type").bind Json.asString?

def isNotice (members : Json.Members) : Bool :=
  typeOf? members == some "error" || typeOf? members == some "warning"

/-- An object whose type starts with the ticker channel, in any case, is a ticker itself; else the
objects in its envelope are; else it may be an error or a warning of the feed. -/
def Message.classify : Json → Message
  | .object members =>
    if SymbolSet.tickerChannel.toList.isPrefixOf (Text.lower ((typeOf? members).getD "")).toList then
      .tickers [members]
    else
      match firstPresent? members envelopeNames with
      | some (.object inner) => .tickers [inner]
      | some (.array items) => .tickers (items.filterMap Json.asObject?)
      | _ => if isNotice members then .notice members else .ignored
  | _ => .ignored

end FeedMonitor.Feed
