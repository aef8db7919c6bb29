import Telemetry.Proofs.Deployment.NoLoss
import Telemetry.Proofs.Gateway

/-!
# Tenancy of stored rows

The owner of a device is compared once, when a reading is ingested, and never again.  Still every
stored row belongs to the organization that the registry named as the owner in the very call that
the row comes from: only confirmed readings are published, only published records are handed to the
store, and the store has only rows that it was handed.
-/

namespace Telemetry
namespace Deployment

open Broker

/-- The registry replied that the reading's device belongs to the organization that claims it. -/
structure Lookup.Confirms (lookup : Lookup) : Prop where
  device : lookup.device = lookup.reading.device
  found : lookup.found = .ok (some lookup.organization)

namespace Shared

/-- A payload is the record of a reading whose owner was confirmed. -/
def Authorized (shared : Shared) (payload : Bytes) : Prop :=
  ∃ lookup ∈ shared.lookups, lookup.Confirms ∧
    ∃ now, payload = (lookup.reading.stamp lookup.organization now).encode

theorem Authorized.grow {before after : Shared} {payload : Bytes}
    (authorized : before.Authorized payload) (growth : Grows before after) :
    after.Authorized payload := by
  obtain ⟨lookup, member, confirmed, now, same⟩ := authorized
  exact ⟨lookup, growth.lookups member, confirmed, now, same⟩

end Shared

/-- The terms on which a client shares the world. -/
def clientContract (organization : String) (reading : Reading) :
    Contract Gateway.interface Shared where
  drifts := Shared.Grows
  permits request shared :=
    match request with
    | .broker (.publish _ payload) => shared.Authorized payload
    | _ => True
  reacts := converses organization reading
  drifts_refl := .refl
  drifts_trans := .trans

/-- Ingestion publishes only what the registry has confirmed in the same call. -/
theorem keeps_ingest (base organization : String) (reading : Reading) (shared : Shared) :
    (Gateway.ingest base organization reading).Keeps (clientContract organization reading)
      (fun _ _ => True) shared := by
  rw [Gateway.ingest, Ingest.ingest]
  cases Ingest.validate organization reading with
  | error failure =>
      intro last _
      trivial
  | ok _ =>
      intro later drifts
      refine ⟨trivial, ?_⟩
      rintro found _ rfl
      dsimp only [Dialogue.through, Dialogue.done_bind]
      cases checked : Ingest.checkOwner organization reading found with
      | error failure =>
          intro last _
          trivial
      | ok owner =>
          obtain ⟨confirmed, rfl⟩ := Ingest.checkOwner_eq_ok_iff.mp checked
          intro later drifts
          refine ⟨trivial, ?_⟩
          rintro now _ rfl last drifts'
          refine ⟨?_, ?_⟩
          · have present := drifts'.lookups (drifts.lookups List.mem_cons_self)
            exact ⟨_, present, ⟨rfl, confirmed⟩, now, rfl⟩
          · intro reply after reaction final _
            trivial

/-- What every step preserves: only what is authorized is published, handed over and stored. -/
structure Lawful (world : World) : Prop where
  published : ∀ delivery ∈ world.shared.published, world.shared.Authorized delivery.payload
  sent : ∀ row ∈ world.shared.sent, world.shared.Backed row
  rows : world.shared.rows ⊆ world.shared.sent
  clients : ∀ name client, world.clients name = some client →
    client.residual.Keeps (clientContract client.organization client.reading) (fun _ _ => True)
      world.shared

theorem lawful_empty : Lawful .empty where
  published delivery member := by cases member
  sent row member := by cases member
  rows := List.Subset.refl []
  clients name client present := by cases present

theorem backed_of_handed {α : Type} {post : α → Shared × Desk → Prop}
    {request : Consumer.Call Store.interface}
    {next : request.Reply → Dialogue (Consumer.interface Store.interface) α}
    {state : Shared × Desk} (keeps : (Dialogue.call request next).Keeps workerContract post state)
    {row : Store.Row} (member : row ∈ handed request) : state.1.Backed row := by
  unfold handed at member
  split at member
  · rw [List.mem_singleton.mp member]
    exact keeps.permits
  · cases member

/-- A client changes nothing but lookups and messages, and its messages are authorized. -/
theorem authorized_of_converses {α : Type} {organization : String} {reading : Reading}
    {post : α → Shared → Prop} {request : Gateway.Call}
    {next : request.Reply → Dialogue Gateway.interface α} {reply : request.Reply}
    {before after : Shared}
    (keeps : (Dialogue.call request next).Keeps (clientContract organization reading) post before)
    (reaction : converses organization reading request reply before after) :
    (after.sent = before.sent ∧ after.rows = before.rows) ∧
      ∀ delivery ∈ after.published,
        delivery ∈ before.published ∨ before.Authorized delivery.payload := by
  unfold converses at reaction
  split at reaction
  · subst reaction
    exact ⟨⟨rfl, rfl⟩, fun delivery member => .inl member⟩
  · subst reaction
    exact ⟨⟨rfl, rfl⟩, fun delivery member => .inl member⟩
  · rcases reaction with rfl | ⟨_, rfl⟩
    · refine ⟨⟨rfl, rfl⟩, ?_⟩
      intro delivery member
      rcases List.mem_append.mp member with earlier | latest
      · exact .inl earlier
      · rw [List.mem_singleton.mp latest]
        exact .inr keeps.permits
    · exact ⟨⟨rfl, rfl⟩, fun delivery member => .inl member⟩

theorem lawful_step {setting : Setting} (closed : ¬setting.foreign) {world next : World}
    (diligent : Diligent world) (lawful : Lawful world) (step : Step setting world next) :
    Lawful next := by
  have growth := grows_of_step step
  have authorized : ∀ delivery ∈ world.shared.published,
      next.shared.Authorized delivery.payload := by
    intro delivery member
    exact (lawful.published delivery member).grow growth
  have backed : ∀ row ∈ world.shared.sent, next.shared.Backed row := by
    intro row member
    exact (lawful.sent row member).grow growth
  have bystanders : ∀ name client, world.clients name = some client →
      client.residual.Keeps (clientContract client.organization client.reading) (fun _ _ => True)
        next.shared := by
    intro name client present
    exact (lawful.clients name client present).drift growth
  cases step with
  | publish delivery allowed => exact absurd allowed closed
  | start name config turns => exact ⟨authorized, backed, lawful.rows, bystanders⟩
  | crash name => exact ⟨authorized, backed, lawful.rows, bystanders⟩
  | forget id asked => exact ⟨authorized, backed, lawful.rows, bystanders⟩
  | keep row handed =>
      refine ⟨authorized, backed, ?_, bystanders⟩
      exact List.append_subset.mpr ⟨lawful.rows, List.cons_subset.mpr ⟨handed, List.nil_subset _⟩⟩
  | work name request next desk present reply after reaction =>
      have frame := frame_of_reacts reaction
      obtain ⟨more, stored, rows⟩ := frame.rows
      refine ⟨?_, ?_, ?_, bystanders⟩
      · rw [frame.published]
        exact authorized
      · intro row member
        rw [frame.sent] at member
        rcases List.mem_append.mp member with latest | earlier
        · exact (backed_of_handed (diligent.workers name _ present) latest).grow growth
        · exact backed row earlier
      · rw [rows, frame.sent]
        refine List.subset_append_of_subset_right _ ?_
        exact List.append_subset.mpr ⟨lawful.rows, stored⟩
  | visit name organization reading =>
      refine ⟨authorized, backed, lawful.rows, ?_⟩
      intro other client present
      rcases of_update present with ⟨_, visiting⟩ | present
      · cases visiting
        exact keeps_ingest setting.base organization reading _
      · exact bystanders other client present
  | converse name organization reading request next present reply after reaction =>
      have keeps := lawful.clients name _ present
      obtain ⟨⟨sent, rows⟩, published⟩ := authorized_of_converses keeps reaction
      refine ⟨?_, ?_, ?_, ?_⟩
      · intro delivery member
        rcases published delivery member with earlier | confirmed
        · exact authorized delivery earlier
        · exact confirmed.grow growth
      · rw [sent]
        exact backed
      · rw [rows, sent]
        exact lawful.rows
      · intro other client present'
        rcases of_update present' with ⟨_, moved⟩ | present'
        · cases moved
          exact keeps.step reaction
        · exact bystanders other client present'

theorem lawful_of_reachable {setting : Setting} (closed : ¬setting.foreign) {world : World}
    (reachable : Reachable setting world) : Lawful world := by
  induction reachable with
  | refl => exact lawful_empty
  | tail earlier step lawful =>
      exact lawful_step closed (diligent_of_reachable earlier) lawful step

/-- Every stored row belongs to the owner that the registry named in its call. -/
theorem rows_belong_to_owners (setting : Setting) (closed : ¬setting.foreign) (world : World)
    (reachable : Reachable setting world) :
    ∀ row ∈ world.shared.rows, ∃ lookup ∈ world.shared.lookups,
      lookup.organization = row.organization ∧ lookup.reading.device = row.device ∧
        lookup.device = row.device ∧ lookup.found = .ok (some row.organization) ∧
          row.payload = lookup.reading.data.asDoubles := by
  intro row member
  have lawful := lawful_of_reachable closed reachable
  obtain ⟨delivery, published, record, decoded, rfl⟩ := lawful.sent row (lawful.rows member)
  obtain ⟨lookup, present, confirmed, now, same⟩ := lawful.published delivery published
  rw [same] at decoded
  obtain rfl := Record.eq_asDoubles_of_decode_encode decoded
  exact ⟨lookup, present, rfl, rfl, confirmed.device, confirmed.found, rfl⟩

section Disputed

def disputedReading : Reading where
  device := "device-1"
  occurredAt := some ⟨1735732920, 125000000, by decide⟩
  data := ⟨[("counts", .list [.number (.integer 11 (by decide)), .null]),
    ("state", .text "on")], by decide⟩

/-- Two organizations claim a reading, and its row belongs to the owner. -/
theorem stored_for_owner :
    ∃ world row, Reachable ⟨Store.localAccess, "t", "b", False⟩ world ∧
      (∃ lookup ∈ world.shared.lookups, lookup.organization = "org-2" ∧
        lookup.reading = disputedReading ∧ lookup.found = .ok (some "org-1")) ∧
      row ∈ world.shared.rows ∧ row.organization = "org-1" ∧ row.device = "device-1" ∧
        ∃ lookup ∈ world.shared.lookups, lookup.organization = "org-1" ∧
          lookup.device = "device-1" ∧ lookup.found = .ok (some "org-1") ∧
          row.payload = lookup.reading.data.asDoubles := by
  let record : Record := disputedReading.stamp "org-1" ⟨1735732921, 0, by decide⟩
  have decoded : Record.decode record.encode = .ok record.asDoubles :=
    Record.decode_encode (by decide +kernel) (by decide +kernel) (by decide)
  have intruding : Reachable ⟨Store.localAccess, "t", "b", False⟩ _ :=
    .single (.visit 0 "org-2" disputedReading)
  have refused := intruding.tail (.converse 0 "org-2" disputedReading (.owner "device-1") _ rfl
    (.ok (some "org-1")) _ rfl)
  have visiting := refused.tail (.visit 1 "org-1" disputedReading)
  have confirmed := visiting.tail (.converse 1 "org-1" disputedReading (.owner "device-1") _ rfl
    (.ok (some "org-1")) _ rfl)
  have stamped := confirmed.tail (.converse 1 "org-1" disputedReading .now _ rfl
    ⟨1735732921, 0, by decide⟩ _ rfl)
  have published := stamped.tail (.converse 1 "org-1" disputedReading
    (.broker (.publish "b.device-1" record.encode)) _ rfl (.ok ()) _ (.inl rfl))
  obtain ⟨world, reachable, _, lookups, _, stored⟩ := exists_acknowledged published
    (show [_][0]? = some _ from rfl) List.not_mem_nil decoded Store.describe_localAccess
  obtain ⟨lookup, present, owner, _, device, found, payload⟩ :=
    rows_belong_to_owners _ not_false world reachable _ stored
  refine ⟨world, _, reachable, ?_, stored, rfl, rfl, lookup, present, owner, device, found,
    payload⟩
  rw [lookups]
  exact ⟨_, List.mem_cons_of_mem _ List.mem_cons_self, rfl, rfl, rfl⟩

end Disputed

end Deployment
end Telemetry
