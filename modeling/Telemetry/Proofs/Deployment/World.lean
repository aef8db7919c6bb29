import Mathlib.Data.List.Forall2
import Mathlib.Logic.Function.Basic
import Mathlib.Logic.Relation
import Telemetry.Gateway
import Telemetry.Proofs.Insertion

/-!
# Deployments

Any number of workers and of clients of the gateway share one registry, one broker and one store.
Each is what is left of its dialogue, and the world takes one step at a time: some dialogue makes
its next call and gets a reply, a worker is started, crashes or is started again, or the broker or
the store does by itself what it was asked to do before.

A message is named by its place among all that were ever published.  The broker delivers any
messages that it has not forgotten, in batches of any kind, and forgets a message only when an
attempted acknowledgement takes effect, which may happen at any time after the attempt and whatever
the attempt returned.  Likewise a row that was handed to the store may be stored at any time, and
when an insert is finished without an error all of its rows are stored.
-/

namespace Telemetry
namespace Deployment

open Broker

/-- What the registry replied to one call of ingestion. -/
structure Lookup where
  /-- The organization that the call claims the reading for. -/
  organization : String
  reading : Reading
  /-- The device that the registry was asked about. -/
  device : String
  found : Except Failure (Option String)

/-- What all processes share. -/
structure Shared where
  /-- The messages that were ever published. -/
  published : List Delivery
  /-- The messages that an acknowledgement was attempted for. -/
  attempted : List Nat
  /-- The messages whose acknowledgement has taken effect. -/
  forgotten : List Nat
  /-- The rows that were ever handed to the store. -/
  sent : List Store.Row
  /-- The rows that the store has. -/
  rows : List Store.Row
  lookups : List Lookup

/-- What a worker works on. -/
structure Desk where
  /-- The messages of the last batch. -/
  held : List Nat
  /-- The rows of the open insert. -/
  pending : List Store.Row

/-- What a call of a worker does to what it works on and to what is shared. -/
def reacts : (request : Consumer.Call Store.interface) → request.Reply →
    Shared × Desk → Shared × Desk → Prop
  | .fetch _, .ok batch, (shared, desk), after =>
      ∃ ids : List Nat, (∀ id ∈ ids, id ∉ shared.forgotten) ∧
        List.Forall₂ (fun id delivery => shared.published[id]? = some delivery) ids batch ∧
          after = (shared, { desk with held := ids })
  | .accept index, _, (shared, desk), after =>
      after = ({ shared with attempted := desk.held[index]?.toList ++ shared.attempted }, desk)
  | .work (.openInsert _ _), _, (shared, desk), after =>
      after = (shared, { desk with pending := [] })
  | .work (.write row), _, (shared, desk), after =>
      after = ({ shared with sent := row :: shared.sent },
        { desk with pending := row :: desk.pending })
  | .work .finish, .ok (), (shared, desk), after =>
      ∃ more : List Store.Row, (∀ row ∈ more, row ∈ shared.sent) ∧
        (∀ row ∈ desk.pending, row ∈ shared.rows ++ more) ∧
          after = ({ shared with rows := shared.rows ++ more }, desk)
  | _, _, before, after => after = before

/-- What a call of the gateway does; a publish that fails may have reached the broker. -/
def converses (organization : String) (reading : Reading) :
    (request : Gateway.Call) → request.Reply → Shared → Shared → Prop
  | .owner device, found, shared, after =>
      after = { shared with lookups := ⟨organization, reading, device, found⟩ :: shared.lookups }
  | .now, _, shared, after => after = shared
  | .broker (.publish subject payload), reply, shared, after =>
      after = { shared with published := shared.published ++ [⟨subject, payload⟩] } ∨
        reply.isOk = false ∧ after = shared

/-- A process that runs the consumer. -/
structure Worker where
  /-- What is left to do. -/
  residual : Dialogue (Consumer.interface Store.interface) (Option (Except Incident Unit))
  desk : Desk

structure Client where
  organization : String
  reading : Reading
  /-- What is left to do. -/
  residual : Dialogue Gateway.interface (Except Failure Unit)

structure World where
  shared : Shared
  workers : Nat → Option Worker
  clients : Nat → Option Client

def World.empty : World := ⟨⟨[], [], [], [], [], []⟩, fun _ => none, fun _ => none⟩

structure Setting where
  access : Store.Access
  table : String
  /-- The base subject of all records. -/
  base : String
  /-- Whether others than the gateway publish to the broker. -/
  foreign : Prop

theorem of_update {α : Type} {table : Nat → Option α} {name other : Nat} {entry : Option α}
    {found : α} (present : Function.update table name entry other = some found) :
    other = name ∧ entry = some found ∨ table other = some found := by
  by_cases same : other = name
  · subst same
    rw [Function.update_self] at present
    exact .inl ⟨rfl, present⟩
  · rw [Function.update_of_ne same] at present
    exact .inr present

/-- One step of the world. -/
inductive Step (setting : Setting) (world : World) : World → Prop
  /-- Someone else publishes a message. -/
  | publish (delivery : Delivery) (allowed : setting.foreign) :
      Step setting world { world with
        shared := { world.shared with published := world.shared.published ++ [delivery] } }
  /-- A worker is started, for the first time or again. -/
  | start (name : Nat) (config : Consumer.Config) (turns : Nat) :
      Step setting world { world with
        workers := Function.update world.workers name (some
          ⟨Consumer.start config (Telemetry.Worker.processor setting.access setting.table) turns,
            [], []⟩) }
  /-- A worker is gone, whatever it was about to do. -/
  | crash (name : Nat) :
      Step setting world { world with workers := Function.update world.workers name none }
  /-- An attempted acknowledgement takes effect. -/
  | forget (id : Nat) (asked : id ∈ world.shared.attempted) :
      Step setting world { world with
        shared := { world.shared with forgotten := id :: world.shared.forgotten } }
  /-- The store keeps a row that it was handed, whatever became of its insert. -/
  | keep (row : Store.Row) (handed : row ∈ world.shared.sent) :
      Step setting world { world with
        shared := { world.shared with rows := world.shared.rows ++ [row] } }
  /-- A worker makes its next call. -/
  | work (name : Nat) (request : Consumer.Call Store.interface)
      (next : request.Reply →
        Dialogue (Consumer.interface Store.interface) (Option (Except Incident Unit)))
      (desk : Desk) (present : world.workers name = some ⟨.call request next, desk⟩)
      (reply : request.Reply) (after : Shared × Desk)
      (reaction : reacts request reply (world.shared, desk) after) :
      Step setting world { world with
        shared := after.1
        workers := Function.update world.workers name (some ⟨next reply, after.2⟩) }
  /-- A client calls the gateway. -/
  | visit (name : Nat) (organization : String) (reading : Reading) :
      Step setting world { world with
        clients := Function.update world.clients name (some
          ⟨organization, reading, Gateway.ingest setting.base organization reading⟩) }
  /-- The gateway makes its next call for a client. -/
  | converse (name : Nat) (organization : String) (reading : Reading) (request : Gateway.Call)
      (next : request.Reply → Dialogue Gateway.interface (Except Failure Unit))
      (present : world.clients name = some ⟨organization, reading, .call request next⟩)
      (reply : request.Reply) (after : Shared)
      (reaction : converses organization reading request reply world.shared after) :
      Step setting world { world with
        shared := after
        clients := Function.update world.clients name
          (some ⟨organization, reading, next reply⟩) }

/-- The worlds that steps lead to from the empty one. -/
def Reachable (setting : Setting) : World → Prop :=
  Relation.ReflTransGen (Step setting) .empty

namespace Shared

/-- Nothing that was published, stored or looked up is lost. -/
structure Grows (before after : Shared) : Prop where
  published : before.published <+: after.published
  rows : before.rows ⊆ after.rows
  lookups : before.lookups ⊆ after.lookups

/-- The store has a row that holds the record of a message. -/
def Persisted (shared : Shared) (id : Nat) : Prop :=
  ∃ delivery record row, shared.published[id]? = some delivery ∧
    Record.decode delivery.payload = .ok record ∧ row ∈ shared.rows ∧ row.Holds record

/-- A row is that of a published message. -/
def Backed (shared : Shared) (row : Store.Row) : Prop :=
  ∃ delivery ∈ shared.published, ∃ record, Record.decode delivery.payload = .ok record ∧
    row = record.toRow

variable {before after : Shared}

theorem Grows.refl (shared : Shared) : Grows shared shared :=
  ⟨List.prefix_rfl, fun _ member => member, fun _ member => member⟩

theorem Grows.trans {first second third : Shared} (left : Grows first second)
    (right : Grows second third) : Grows first third :=
  ⟨left.published.trans right.published, fun _ member => right.rows (left.rows member),
    fun _ member => right.lookups (left.lookups member)⟩

theorem Grows.getElem? {id : Nat} {delivery : Delivery} (growth : Grows before after)
    (place : before.published[id]? = some delivery) : after.published[id]? = some delivery := by
  obtain ⟨inside, same⟩ := List.getElem?_eq_some_iff.mp place
  rw [← same]
  exact List.prefix_iff_getElem?.mp growth.published id inside

theorem Persisted.grow {id : Nat} (persisted : before.Persisted id) (growth : Grows before after) :
    after.Persisted id := by
  obtain ⟨delivery, record, row, place, decoded, member, holds⟩ := persisted
  exact ⟨delivery, record, row, growth.getElem? place, decoded, growth.rows member, holds⟩

theorem Backed.grow {row : Store.Row} (backed : before.Backed row) (growth : Grows before after) :
    after.Backed row := by
  obtain ⟨delivery, member, record, decoded, same⟩ := backed
  exact ⟨delivery, growth.published.subset member, record, decoded, same⟩

end Shared

section Reactions

variable {request : Consumer.Call Store.interface} {reply : request.Reply}
  {before after : Shared × Desk}

/-- The message that a call acknowledges. -/
def acknowledged (request : Consumer.Call Store.interface) (desk : Desk) : List Nat :=
  match request with
  | .accept index => desk.held[index]?.toList
  | _ => []

/-- The row that a call hands to the store. -/
def handed (request : Consumer.Call Store.interface) : List Store.Row :=
  match request with
  | .work (.write row) => [row]
  | _ => []

/-- What a call of a worker changes, and that it changes nothing else. -/
structure Frame (request : Consumer.Call Store.interface) (before after : Shared × Desk) :
    Prop where
  published : after.1.published = before.1.published
  lookups : after.1.lookups = before.1.lookups
  forgotten : after.1.forgotten = before.1.forgotten
  attempted : after.1.attempted = acknowledged request before.2 ++ before.1.attempted
  sent : after.1.sent = handed request ++ before.1.sent
  rows : ∃ more : List Store.Row, (∀ row ∈ more, row ∈ before.1.sent) ∧
    after.1.rows = before.1.rows ++ more
  held : (∀ config, request ≠ .fetch config) → after.2.held = before.2.held

theorem frame_of_reacts (reaction : reacts request reply before after) :
    Frame request before after := by
  have none : ∃ more : List Store.Row, (∀ row ∈ more, row ∈ before.1.sent) ∧
      before.1.rows = before.1.rows ++ more := ⟨[], by simp⟩
  unfold reacts at reaction
  split at reaction
  · obtain ⟨ids, _, _, rfl⟩ := reaction
    exact ⟨rfl, rfl, rfl, rfl, rfl, none, fun noFetch => absurd rfl (noFetch _)⟩
  · subst reaction
    exact ⟨rfl, rfl, rfl, rfl, rfl, none, fun _ => rfl⟩
  · subst reaction
    exact ⟨rfl, rfl, rfl, rfl, rfl, none, fun _ => rfl⟩
  · subst reaction
    exact ⟨rfl, rfl, rfl, rfl, rfl, none, fun _ => rfl⟩
  · obtain ⟨more, backed, _, rfl⟩ := reaction
    exact ⟨rfl, rfl, rfl, rfl, rfl, ⟨more, backed, rfl⟩, fun _ => rfl⟩
  · rename_i noAccept _ noWrite _
    subst reaction
    refine ⟨rfl, rfl, rfl, ?_, ?_, none, fun _ => rfl⟩
    · unfold acknowledged
      split
      · exact (noAccept _ _ _ _ rfl HEq.rfl rfl).elim
      · rfl
    · unfold handed
      split
      · exact (noWrite _ _ _ _ rfl HEq.rfl rfl).elim
      · rfl

end Reactions

section Growth

open Shared

variable {shared : Shared}

theorem grows_publish (delivery : Delivery) :
    shared.Grows { shared with published := shared.published ++ [delivery] } :=
  ⟨List.prefix_append _ _, fun _ member => member, fun _ member => member⟩

theorem grows_store (more : List Store.Row) :
    shared.Grows { shared with rows := shared.rows ++ more } :=
  ⟨List.prefix_rfl, List.subset_append_left _ _, fun _ member => member⟩

theorem grows_of_reacts {request : Consumer.Call Store.interface} {reply : request.Reply}
    {before after : Shared × Desk} (reaction : reacts request reply before after) :
    before.1.Grows after.1 := by
  have frame := frame_of_reacts reaction
  obtain ⟨more, _, rows⟩ := frame.rows
  refine ⟨?_, ?_, ?_⟩
  · exact frame.published ▸ List.prefix_rfl
  · exact rows ▸ List.subset_append_left _ _
  · exact frame.lookups ▸ List.Subset.refl _

theorem grows_of_converses {organization : String} {reading : Reading} {request : Gateway.Call}
    {reply : request.Reply} {after : Shared}
    (reaction : converses organization reading request reply shared after) :
    shared.Grows after := by
  unfold converses at reaction
  split at reaction
  · subst reaction
    exact ⟨List.prefix_rfl, fun _ member => member, List.subset_cons_self _ _⟩
  · subst reaction
    exact Grows.refl _
  · rcases reaction with rfl | ⟨_, rfl⟩
    · exact grows_publish _
    · exact Grows.refl _

/-- Whatever happens, nothing that was published, stored or looked up is lost. -/
theorem grows_of_step {setting : Setting} {world next : World} (step : Step setting world next) :
    world.shared.Grows next.shared := by
  cases step with
  | publish delivery allowed => exact grows_publish delivery
  | start name config turns => exact Grows.refl _
  | crash name => exact Grows.refl _
  | forget id asked => exact ⟨List.prefix_rfl, fun _ member => member, fun _ member => member⟩
  | keep row handed => exact grows_store [row]
  | work name request next desk present reply after reaction => exact grows_of_reacts reaction
  | visit name organization reading => exact Grows.refl _
  | converse name organization reading request next present reply after reaction =>
      exact grows_of_converses reaction

end Growth

end Deployment
end Telemetry
