import FeedMonitor.Feed.Consumer

/-!
What a consumer does before it has to wait for something, when every frame can be written.
-/

namespace FeedMonitor.Feed.Consumer

/-- The event that comes next without anybody else, if the consumer has something to do. -/
def nextEvent? (consumer : Consumer) : Option Event :=
  match consumer.phase with
  | .starting | .resting | .reading | .leaving => some .goOn
  | .writing _ => some .written
  | .parting => some (.pause 0)
  | .listening =>
    if consumer.cancelled then some .leave
    else if consumer.subscription.permit then some .resubscribe
    else none
  | .connecting | .pausing _ => if consumer.cancelled then some .leave else none
  | .stopped => none

/-- Goes on until there is nothing to do. Each round takes a step towards a phase in which the
consumer waits, and none is more than eight steps away. -/
def settle (consumer : Consumer) : Consumer × List Effect := rounds 8 consumer
where
  rounds : Nat → Consumer → Consumer × List Effect
    | 0, consumer => (consumer, [])
    | fuel + 1, consumer =>
      match consumer.nextEvent?.bind consumer.step? with
      | none => (consumer, [])
      | some (next, effects) =>
        let (last, more) := rounds fuel next
        (last, effects ++ more)

/-- Takes an event, if it can happen, and settles. -/
def take (consumer : Consumer) (event : Event) : Consumer × List Effect :=
  match consumer.step? event with
  | none => consumer.settle
  | some (next, effects) =>
    let (last, more) := next.settle
    (last, effects ++ more)

def takeAll (consumer : Consumer) (events : List Event) : Consumer × List Effect :=
  events.foldl (fun (consumer, effects) event =>
    let (next, more) := consumer.take event
    (next, effects ++ more)) (consumer, [])

end FeedMonitor.Feed.Consumer
