import FeedMonitor.Collector.Transport
import FeedMonitor.Delivery.Timeline

/-!
The collector as the sink of the delivery service.
-/

namespace FeedMonitor.Collector

/-- A batch is handed over as the bytes of its payload. A failure goes to the log and nowhere else. -/
def Transport.sink (transport : Transport) (surroundings : Surroundings) :
    Delivery.Sink Transport where
  state := transport
  deliver batch transport :=
    let (_, _, journal, next) := transport.send surroundings
      (Record.payload batch).toUTF8.toList
    (journal, next)

end FeedMonitor.Collector
