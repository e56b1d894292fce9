import FeedMonitor.Feed.Symbols

/-!
The symbols that a program has subscribed to, and changes of them while it runs.

A change writes the set first and signals after that. A signal leaves one permit, which whoever talks
to the feed takes before it reads the set; several signals may leave a single permit.
-/

namespace FeedMonitor.Feed

structure Subscription where
  symbols : SymbolSet
  /-- Whether a change was signalled that nobody has taken up. -/
  permit : Bool
  /-- Changes that are written and not yet signalled. -/
  unsignalled : Nat
deriving DecidableEq

namespace Subscription

inductive Change
  /-- Adds the symbols that some texts name. -/
  | add (texts : List String)
  /-- Leaves only the symbols that some texts name. -/
  | replace (texts : List String)
deriving DecidableEq

/-- The set after a change, and whether that is another one. A set that was added to is another one
if it has grown. -/
def Change.apply (change : Change) (symbols : SymbolSet) : Bool × SymbolSet :=
  match change with
  | .add texts =>
    let grown := symbols.union (SymbolSet.normalize texts)
    (grown.size != symbols.size, grown)
  | .replace texts =>
    let next := SymbolSet.ofTexts texts
    if next = symbols then (false, symbols) else (true, next)

def ofSymbols (symbols : SymbolSet) : Subscription := ⟨symbols, false, 0⟩

/-- Writes a change. One that makes another set is to be signalled. -/
def write (subscription : Subscription) (change : Change) : Bool × Subscription :=
  let (changed, symbols) := change.apply subscription.symbols
  (changed, { subscription with
    symbols
    unsignalled := if changed then subscription.unsignalled + 1 else subscription.unsignalled })

/-- Signals a change that was written. -/
def signal? (subscription : Subscription) : Option Subscription :=
  if subscription.unsignalled = 0 then none
  else some { subscription with permit := true, unsignalled := subscription.unsignalled - 1 }

/-- Writes a change and signals it, and says whether the set is another one now. -/
def change (subscription : Subscription) (change : Change) : Bool × Subscription :=
  let (changed, next) := subscription.write change
  (changed, if changed then next.signal?.getD next else next)

/-- Takes the permit, if there is one. -/
def take? (subscription : Subscription) : Option Subscription :=
  if subscription.permit then some { subscription with permit := false } else none

end Subscription

end FeedMonitor.Feed
