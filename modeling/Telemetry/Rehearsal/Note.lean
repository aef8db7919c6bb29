import Telemetry.Broker.Consumer
import Telemetry.Broker.Publisher
import Telemetry.Histogram.Window

/-!
# Notes

Collaborators in a rehearsal note every call that reaches them, so that the calls of a service can
be read off in order.
-/

namespace Telemetry
namespace Rehearsal

/-- A call that reached a collaborator. -/
inductive Note where
  | owner (device : String)
  | deviceCount (organization : String)
  /-- A record was handed over for publishing. -/
  | published (record : Record)
  /-- The broker has a message, which is read as a consumer would read it. -/
  | sent (subject : String) (content : Except Undecodable Record)
  | unsent (subject : String)
  | query (query : Histogram.Query)
  | stored (records : List Record)
  | unstored (count : Nat)
  | attached (config : Broker.Consumer.Config)
  /-- A fetch, with the most messages and the longest wait in milliseconds. -/
  | fetching (batchSize waitMillis : Nat)
  /-- A fetch that took the given number of messages. -/
  | fetched (count : Nat)
  | accepted (index : Nat)
  | unaccepted (index : Nat)
  | returned (index : Nat)
  | unreturned (index : Nat)
  /-- A batch of the given size was handed over for a decision. -/
  | deciding (count : Nat)
  | streamSought (name : String)
  | streamCreated (stream : Broker.Stream)

end Rehearsal
end Telemetry
