import Telemetry.Proofs.Deployment.Progress
import Telemetry.Proofs.Sending
import Telemetry.Proofs.Wire.Record

/-!
# No message is lost

In every reachable world the store has the row of every message that an acknowledgement was ever
attempted for.  The broker forgets only such messages, so it still has every other one.
-/

namespace Telemetry
namespace Deployment

open Broker

theorem settlements_of_converses {organization : String} {reading : Reading}
    {request : Gateway.Call} {reply : request.Reply} {before after : Shared}
    (reaction : converses organization reading request reply before after) :
    after.attempted = before.attempted ∧ after.forgotten = before.forgotten := by
  unfold converses at reaction
  split at reaction
  · subst reaction
    exact ⟨rfl, rfl⟩
  · subst reaction
    exact ⟨rfl, rfl⟩
  · rcases reaction with rfl | ⟨_, rfl⟩ <;> exact ⟨rfl, rfl⟩

/-- What every step preserves: acknowledgements follow storage. -/
structure Diligent (world : World) : Prop where
  attempted : ∀ id ∈ world.shared.attempted, world.shared.Persisted id
  forgotten : world.shared.forgotten ⊆ world.shared.attempted
  workers : ∀ name worker, world.workers name = some worker →
    worker.residual.Keeps workerContract (fun _ _ => True) (world.shared, worker.desk)

theorem diligent_empty : Diligent .empty where
  attempted id member := by cases member
  forgotten := List.Subset.refl []
  workers name worker present := by cases present

theorem keeps_of_grows {world : World} (diligent : Diligent world) {shared : Shared}
    (growth : world.shared.Grows shared) {name : Nat} {worker : Worker}
    (present : world.workers name = some worker) :
    worker.residual.Keeps workerContract (fun _ _ => True) (shared, worker.desk) :=
  (diligent.workers name worker present).drift ⟨growth, rfl⟩

/-- A worker acknowledges only what the store has. -/
theorem persisted_of_acknowledged {α : Type} {post : α → Shared × Desk → Prop}
    {request : Consumer.Call Store.interface}
    {next : request.Reply → Dialogue (Consumer.interface Store.interface) α}
    {state : Shared × Desk} (keeps : (Dialogue.call request next).Keeps workerContract post state)
    {id : Nat} (member : id ∈ acknowledged request state.2) : state.1.Persisted id := by
  unfold acknowledged at member
  split at member
  · exact keeps.permits id (Option.mem_toList.mp member)
  · cases member

theorem diligent_step {setting : Setting} {world next : World} (diligent : Diligent world)
    (step : Step setting world next) : Diligent next := by
  have growth := grows_of_step step
  have persisted : ∀ id ∈ world.shared.attempted, next.shared.Persisted id := by
    intro id member
    exact (diligent.attempted id member).grow growth
  cases step with
  | publish delivery allowed =>
      exact ⟨persisted, diligent.forgotten, fun _ _ => keeps_of_grows diligent growth⟩
  | start name config turns =>
      refine ⟨persisted, diligent.forgotten, ?_⟩
      intro other worker present
      rcases of_update present with ⟨_, started⟩ | present
      · cases started
        exact keeps_start setting.access setting.table config turns _
      · exact diligent.workers other worker present
  | crash name =>
      refine ⟨persisted, diligent.forgotten, ?_⟩
      intro other worker present
      rcases of_update present with ⟨_, impossible⟩ | present
      · cases impossible
      · exact diligent.workers other worker present
  | forget id asked =>
      refine ⟨persisted, ?_, fun _ _ => keeps_of_grows diligent growth⟩
      exact List.cons_subset.mpr ⟨asked, diligent.forgotten⟩
  | keep row handed =>
      exact ⟨persisted, diligent.forgotten, fun _ _ => keeps_of_grows diligent growth⟩
  | work name request next desk present reply after reaction =>
      have keeps := diligent.workers name _ present
      have frame := frame_of_reacts reaction
      refine ⟨?_, ?_, ?_⟩
      · intro id member
        rw [frame.attempted] at member
        rcases List.mem_append.mp member with acknowledged | earlier
        · exact (persisted_of_acknowledged keeps acknowledged).grow growth
        · exact persisted id earlier
      · rw [frame.forgotten, frame.attempted]
        exact List.subset_append_of_subset_right _ diligent.forgotten
      · intro other worker present'
        rcases of_update present' with ⟨_, moved⟩ | present'
        · cases moved
          exact keeps.step reaction
        · exact keeps_of_grows diligent growth present'
  | visit name organization reading =>
      exact ⟨persisted, diligent.forgotten, diligent.workers⟩
  | converse name organization reading request next present reply after reaction =>
      obtain ⟨attempted, forgotten⟩ := settlements_of_converses reaction
      refine ⟨?_, ?_, fun _ _ => keeps_of_grows diligent growth⟩
      · rw [attempted]
        exact persisted
      · rw [attempted, forgotten]
        exact diligent.forgotten

theorem diligent_of_reachable {setting : Setting} {world : World}
    (reachable : Reachable setting world) : Diligent world := by
  induction reachable with
  | refl => exact diligent_empty
  | tail _ step diligent => exact diligent_step diligent step

/-- Whatever was ever acknowledged is persisted, and the broker still has the rest. -/
theorem no_message_lost (setting : Setting) (world : World) (reachable : Reachable setting world) :
    (∀ id ∈ world.shared.attempted, world.shared.Persisted id) ∧
      ∀ id < world.shared.published.length,
        id ∉ world.shared.forgotten ∨ world.shared.Persisted id := by
  have diligent := diligent_of_reachable reachable
  refine ⟨diligent.attempted, ?_⟩
  intro id _
  by_cases forgotten : id ∈ world.shared.forgotten
  · exact .inr (diligent.attempted id (diligent.forgotten forgotten))
  · exact .inl forgotten

section Stray

/-- A record that does not come from the gateway. -/
def strayRecord : Record where
  organization := "org-1"
  device := "device-1"
  occurredAt := ⟨1735732919, 250000000, by decide⟩
  processedAt := ⟨1735732921, 500000000, by decide⟩
  data := ⟨[("door", .object [("open", .bool true)]),
    ("temp", .number (.integer 19 (by decide)))], by decide⟩

/-- Someone else's message is stored, acknowledged and forgotten. -/
theorem stored_before_forgotten :
    ∃ world, Reachable ⟨Store.localAccess, "t", "b", True⟩ world ∧
      world.shared.published = [⟨"b.device-1", strayRecord.encode⟩] ∧
      0 ∈ world.shared.forgotten ∧ world.shared.Persisted 0 ∧
      ∃ row ∈ world.shared.rows, row.organization = "org-1" ∧ row.device = "device-1" ∧
        row.occurredAt = 1735732919250 ∧ row.processedAt = 1735732921500 ∧
        row.data = strayRecord.asDoubles.data.write := by
  have decoded : Record.decode strayRecord.encode = .ok strayRecord.asDoubles :=
    Record.decode_encode (by decide +kernel) (by decide +kernel) (by decide)
  have published : Reachable ⟨Store.localAccess, "t", "b", True⟩ _ :=
    .single (.publish ⟨"b.device-1", strayRecord.encode⟩ trivial)
  obtain ⟨world, reachable, same, _, attempted, _⟩ := exists_acknowledged published
    (show [_][0]? = some _ from rfl) List.not_mem_nil decoded Store.describe_localAccess
  have forgotten := reachable.tail (.forget 0 attempted)
  have persisted := (no_message_lost _ _ forgotten).1 0 attempted
  refine ⟨_, forgotten, same, List.mem_cons_self, persisted, ?_⟩
  obtain ⟨delivery, record, row, place, read, member, holds⟩ := persisted
  dsimp only at place
  rw [same] at place
  cases place
  cases decoded.symm.trans read
  exact ⟨row, member, holds.organization, holds.device, holds.occurredAt, holds.processedAt,
    holds.data⟩

end Stray

end Deployment
end Telemetry
