import FeedMonitor.Feed.Message

/-!
The latest quote of each symbol, and the latest price of all.
-/

namespace FeedMonitor.Feed

structure Store where
  quotes : List (String × Quote)
  lastPrice : Option PriceUpdate

namespace Store

def empty : Store := ⟨[], none⟩

/-- Replaces the quote under a symbol, or adds it. -/
def putQuote (symbol : String) (quote : Quote) : List (String × Quote) → List (String × Quote)
  | [] => [(symbol, quote)]
  | (other, held) :: rest =>
    if other = symbol then (symbol, quote) :: rest else (other, held) :: putQuote symbol quote rest

def insert (store : Store) (quote : Quote) : Store :=
  { store with quotes := putQuote quote.symbol quote store.quotes }

/-- The quote of the symbol that a text names. -/
def quote? (store : Store) (text : String) : Option Quote :=
  store.quotes.lookup (Text.upper (Text.trim text))

def bestBidAsk (store : Store) (text : String) : Option Binary64 × Option Binary64 :=
  match store.quote? text with
  | some quote => (quote.bestBid, quote.bestAsk)
  | none => (none, none)

def recordPrice (store : Store) (update : PriceUpdate) : Store :=
  { store with lastPrice := some update }

def size (store : Store) : Nat := store.quotes.length

theorem lookup_putQuote (symbol : String) (quote : Quote) (quotes : List (String × Quote)) :
    (putQuote symbol quote quotes).lookup symbol = some quote := by
  induction quotes with
  | nil => simp [putQuote]
  | cons entry rest ih =>
    obtain ⟨other, held⟩ := entry
    simp only [putQuote]
    split
    · simp
    · rename_i differ
      have h : (symbol == other) = false := beq_false_of_ne fun same => differ same.symm
      simpa [List.lookup_cons, h] using ih

theorem lookup_putQuote_of_ne {symbol other : String} (differ : other ≠ symbol) (quote : Quote)
    (quotes : List (String × Quote)) :
    (putQuote symbol quote quotes).lookup other = quotes.lookup other := by
  have h : (other == symbol) = false := by simpa using differ
  induction quotes with
  | nil => simp [putQuote, List.lookup_cons, h]
  | cons entry rest ih =>
    obtain ⟨first, held⟩ := entry
    simp only [putQuote]
    split
    · rename_i same
      subst same
      simp [List.lookup_cons, h]
    · simp only [List.lookup_cons]
      split <;> simp_all

end Store

end FeedMonitor.Feed
