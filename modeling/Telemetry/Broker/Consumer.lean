import Telemetry.Broker.Verdict
import Telemetry.Dialogue

/-!
# The consumer

A consumer fetches a batch, has it processed, and settles it: first the accepted messages, then the
returned ones, each attempted whatever became of the others.  It stops at the first failure of any
of these steps, and otherwise when it is cancelled; cancellation is looked for before a fetch only,
so a batch that was fetched is always settled.
-/

namespace Telemetry
namespace Broker
namespace Consumer

/-- A durable consumer, which has to acknowledge every message by itself. -/
structure Config where
  stream : String
  /-- The name of the consumer, which is also the durable one. -/
  name : String
  /-- The subjects that it gets. -/
  filter : String
  /-- The most messages of one fetch. -/
  batchSize : Nat
  /-- The longest wait of one fetch, in seconds. -/
  maxWait : Nat
  deriving DecidableEq, Repr

/-- What a consumer asks: of the broker, of whoever may cancel it, and, through its processor, of
whoever does the work. -/
inductive Call (work : Interface) where
  /-- Create the consumer, or bind to the one there is. -/
  | attach (config : Config)
  | cancelled
  | fetch (config : Config)
  | accept (index : Nat)
  | giveBack (index : Nat)
  | work (request : work.Call)

/-- The reply to each call. -/
abbrev Call.Reply {work : Interface} : Call work → Type
  | .attach _ => Except Report Unit
  | .cancelled => Bool
  | .fetch _ => Except Report (List Delivery)
  | .accept _ => Except Report Unit
  | .giveBack _ => Except Report Unit
  | .work request => work.Reply request

/-- The collaborators of a consumer. -/
abbrev interface (work : Interface) : Interface := ⟨Call work, Call.Reply⟩

/-- Whoever decides on a batch. -/
abbrev Processor (work : Interface) := List Delivery → Dialogue work Verdict

variable {work : Interface}

/-- The work of a processor as a part of the consumer's own dialogue. -/
def lift {α : Type} (dialogue : Dialogue work α) : Dialogue (interface work) α :=
  dialogue.through fun request => .call (.work request) .done

/-- Settle messages one after the other and count the failures; an index beyond the batch is
passed over. -/
def attempt (count : Nat) (settleOne : Nat → Dialogue (interface work) (Except Report Unit)) :
    List Nat → Dialogue (interface work) Nat
  | [] => .done 0
  | index :: rest =>
      if index < count then do
        let settled ← settleOne index
        let failures ← attempt count settleOne rest
        pure (if settled.isOk then failures else failures + 1)
      else
        attempt count settleOne rest

/-- Settle a batch of the given size and count the failures. -/
def settle (count : Nat) (verdict : Verdict) : Dialogue (interface work) Nat := do
  let unaccepted ← attempt count (fun index => .call (.accept index) .done) verdict.accepted
  let unreturned ← attempt count (fun index => .call (.giveBack index) .done)
    (verdict.returned.map Prod.fst)
  pure (unaccepted + unreturned)

/-- How a settled batch ends: the processor's incident comes before failures to settle. -/
def conclude (count : Nat) (verdict : Verdict) (failures : Nat) : Except Incident Unit :=
  match verdict.fatal with
  | some incident => .error incident
  | none =>
      if 0 < failures then
        .error (.ofReport (.of (.unsettled failures count)))
      else
        .ok ()

/-- Process and settle a fetched batch. -/
def handle (processor : Processor work) (batch : List Delivery) :
    Dialogue (interface work) (Except Incident Unit) :=
  if batch.isEmpty then
    .done (.ok ())
  else do
    let verdict ← lift (processor batch)
    let failures ← settle batch.length verdict
    pure (conclude batch.length verdict failures)

/-- One turn of the loop: its result if it ends there. -/
def turn (config : Config) (processor : Processor work) :
    Dialogue (interface work) (Option (Except Incident Unit)) :=
  .call .cancelled fun
    | true => .done (some (.ok ()))
    | false =>
        .call (.fetch config) fun
          | .error report => .done (some (.error (.ofReport report)))
          | .ok batch =>
              (handle processor batch).bind fun
                | .ok () => .done none
                | .error incident => .done (some (.error incident))

/-- Turn after turn until one ends the loop; without a result when it is still running after the
given number of turns. -/
def run (config : Config) (processor : Processor work) (turns : Nat) :
    Dialogue (interface work) (Option (Except Incident Unit)) :=
  (turn config processor).untilSome turns

/-- Attach to the broker and run. -/
def start (config : Config) (processor : Processor work) (turns : Nat) :
    Dialogue (interface work) (Option (Except Incident Unit)) :=
  .call (.attach config) fun
    | .error report => .done (some (.error (.ofReport report)))
    | .ok () => run config processor turns

end Consumer
end Broker
end Telemetry
