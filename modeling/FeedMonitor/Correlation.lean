import FeedMonitor.Text.Blank
import FeedMonitor.Web.Header

/-!
Ids that tie records to the requests they are about.

The ids come with answers and go out with requests. An emission takes the ids that it is given.
-/

namespace FeedMonitor

structure Correlation where
  correlationId : Option String
  requestId : Option String
deriving DecidableEq, Inhabited

namespace Correlation

def correlationHeader : String := "X-Correlation-ID"

def requestHeader : String := "X-Request-ID"

def none : Correlation := ⟨.none, .none⟩

/-- What a field says, if it is there, can be read and is not blank. -/
def idOf? (headers : List Web.Header) (name : String) : Option String :=
  ((Web.Header.find? headers name).bind Web.Header.text?).bind Text.nonBlank?

def ofHeaders (headers : List Web.Header) : Correlation :=
  ⟨idOf? headers correlationHeader, idOf? headers requestHeader⟩

def setCorrelationId (correlation : Correlation) (id : Option String) : Correlation :=
  { correlation with correlationId := id }

/-- Takes over the ids that an answer has. -/
def capture (correlation : Correlation) (headers : List Web.Header) : Correlation :=
  let answer := ofHeaders headers
  ⟨answer.correlationId <|> correlation.correlationId, answer.requestId <|> correlation.requestId⟩

/-- The fields that go out with a request; fails if the id is no legal value. -/
def outgoing? (correlation : Correlation) : Option (List Web.Header) :=
  match correlation.correlationId with
  | .none => some []
  | some id => (Web.Header.ofText? correlationHeader id).map fun header => [header]

/-- The fields of a request once the id stands behind those that it has. -/
def applyTo? (correlation : Correlation) (fields : List Web.Header) : Option (List Web.Header) :=
  correlation.outgoing?.map (fields ++ ·)

end Correlation

end FeedMonitor
