import FeedMonitor.Failure
import FeedMonitor.Feed.Backoff
import FeedMonitor.Feed.Symbols
import FeedMonitor.Settings.Environment
import FeedMonitor.Journal
import FeedMonitor.Text.Split
import FeedMonitor.Web.Url

/-!
Settings of the price feed, the variables that give them, and which of them can be used.
-/

namespace FeedMonitor.Feed

structure Settings where
  url : String
  /-- The first subscription. -/
  symbols : SymbolSet
  backoff : BackoffPolicy
deriving DecidableEq

namespace Settings

def defaultUrl : String := "wss://socket.india.delta.exchange"

def defaultSymbol : String := ".DEXBTUSD"

instance : Inhabited Settings := ⟨⟨defaultUrl, .ofTexts [defaultSymbol], default⟩⟩

inductive Variable
  | url
  | symbols
  | backoff
  | reconnectDelay
  | mostBackoff
deriving DecidableEq

def Variable.all : List Variable := [url, symbols, backoff, reconnectDelay, mostBackoff]

def Variable.name : Variable → String
  | url => "STREAM_URL"
  | symbols => "STREAM_SYMBOL"
  | backoff => "STREAM_BACKOFF"
  | reconnectDelay => "STREAM_RECONNECT_DELAY_MS"
  | mostBackoff => "STREAM_MAX_BACKOFF_MS"

/-- The kind that a value names. Another value is reported and means a fixed delay. -/
def kindOf : Option String → BackoffKind × Journal
  | none => (.fixed, [])
  | some value =>
    match BackoffKind.parse value with
    | .ok kind => (kind, [])
    | .error _ => (.fixed, [Journal.feed .warn s!"Unknown backoff policy '{value}', using fixed"])

/-- The symbols between the commas of a value. -/
def symbolsOf (value : String) : SymbolSet :=
  .ofTexts ((Text.splitOn ',' value.toList).map String.ofList)

/-- The settings that the values of the variables give. -/
def ofValues (value? : Variable → Option String) : Settings × Journal :=
  let (kind, journal) := kindOf (value? .backoff)
  let delay := (FeedMonitor.Settings.millisOf? (value? .reconnectDelay)).getD
    BackoffPolicy.defaultDelay
  let most := (FeedMonitor.Settings.millisOf? (value? .mostBackoff)).getD BackoffPolicy.defaultMost
  ({ url := (FeedMonitor.Settings.textOf? (value? .url)).getD defaultUrl
     symbols := ((value? .symbols).map symbolsOf).getD (.ofTexts [defaultSymbol])
     backoff := match kind with
      | .fixed => .fixed delay
      | .exponential => .exponential delay most true },
    journal)

def ofEnvironment (environment : Environment) : Settings × Journal :=
  ofValues fun setting => environment.value? setting.name

/-! ### Usable settings -/

inductive Fault
  | url (text : String) (cause : Web.Fault)
  | urlScheme (text : String)
  | noSymbols
  | noDelay
  | delays (base most : Span)
deriving DecidableEq

def Fault.reason : Fault → String
  | url text cause => s!"invalid stream url '{text}': {cause.message}"
  | urlScheme text => s!"stream url '{text}' must use ws or wss"
  | noSymbols => "at least one stream symbol is required"
  | noDelay => "reconnect delay must be greater than 0"
  | delays base most =>
    s!"exponential backoff needs 0 < base <= max, got base {base.text} and max {most.text}"

def urlFault? (text : String) : Option Fault :=
  match Web.Url.parse text with
  | .error cause => some (.url text cause)
  | .ok url => if ["ws", "wss"].contains url.scheme then none else some (.urlScheme text)

def backoffFault? : BackoffPolicy → Option Fault
  | .fixed delay => if delay.isZero then some .noDelay else none
  | .exponential base most _ =>
    if base.isZero || most.nanos < base.nanos then some (.delays base most) else none

def fault? (settings : Settings) : Option Fault :=
  match urlFault? settings.url with
  | some fault => some fault
  | none => if settings.symbols.isEmpty then some .noSymbols else backoffFault? settings.backoff

def check (settings : Settings) : Except Failure Unit :=
  match settings.fault? with
  | some fault => .error (.invalidConfig fault.reason)
  | none => .ok ()

/-- The settings of an environment if they can be used. -/
def load (environment : Environment) : Except Failure Settings × Journal :=
  let (settings, journal) := ofEnvironment environment
  (settings.check.map fun _ => settings, journal)

end Settings

end FeedMonitor.Feed
