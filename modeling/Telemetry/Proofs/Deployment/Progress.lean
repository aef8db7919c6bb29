import Telemetry.Proofs.Deployment.Worker

/-!
# What a deployment can always do

A message that the broker still has and that is a record can always be brought into the store: a
worker that is started, fetches it alone and meets no failure stores its row and acknowledges it.
-/

namespace Telemetry
namespace Deployment

open Broker

/-- Some reachable world has this shared state and this worker. -/
def Runs (setting : Setting) (name : Nat) (state : Shared × Desk)
    (residual : Dialogue (Consumer.interface Store.interface) (Option (Except Incident Unit))) :
    Prop :=
  ∃ world, Reachable setting world ∧ world.shared = state.1 ∧
    world.workers name = some ⟨residual, state.2⟩

variable {setting : Setting} {name : Nat} {state : Shared × Desk}

theorem Runs.step {request : Consumer.Call Store.interface}
    {next : request.Reply →
      Dialogue (Consumer.interface Store.interface) (Option (Except Incident Unit))}
    {after : Shared × Desk} (runs : Runs setting name state (.call request next))
    (reply : request.Reply) (reaction : reacts request reply state after) :
    Runs setting name after (next reply) := by
  obtain ⟨world, reachable, shared, present⟩ := runs
  have moved : reacts request reply (world.shared, state.2) after := by
    rw [shared]
    exact reaction
  refine ⟨_, reachable.tail (.work name request next state.2 present reply after moved), rfl, ?_⟩
  exact Function.update_self _ _ _

theorem Runs.start {world : World} (reachable : Reachable setting world) (name : Nat)
    (config : Consumer.Config) (turns : Nat) :
    Runs setting name (world.shared, ⟨[], []⟩)
      (Consumer.start config (Telemetry.Worker.processor setting.access setting.table) turns) :=
  ⟨_, reachable.tail (.start name config turns), rfl, Function.update_self _ _ _⟩

/-- A message that the broker has not forgotten can be stored and acknowledged. -/
theorem exists_acknowledged {world : World} (reachable : Reachable setting world) {id : Nat}
    {delivery : Delivery} (place : world.shared.published[id]? = some delivery)
    (held : id ∉ world.shared.forgotten) {record : Record}
    (decoded : Record.decode delivery.payload = .ok record) {description : String}
    (described : Store.describe setting.access setting.table = .ok description) :
    ∃ next, Reachable setting next ∧ next.shared.published = world.shared.published ∧
      next.shared.lookups = world.shared.lookups ∧
      id ∈ next.shared.attempted ∧ record.toRow ∈ next.shared.rows := by
  have read : Writer.decodeFrom 0 [delivery] = .ok [record] := by
    simp [Writer.decodeFrom, decoded, Except.map]
  have attached := (Runs.start reachable 0 ⟨"", "", "", 1, 1⟩ 1).step (.ok ()) rfl
  have asked := attached.step false rfl
  have fetched : Runs setting 0 (world.shared, ⟨[id], []⟩) _ := asked.step (.ok [delivery])
    ⟨[id], by simpa using held, .cons place .nil, rfl⟩
  simp only [Consumer.handle, Worker.processor_eq_of_read read, Store.store, described,
    List.isEmpty_cons, Bool.false_eq_true, ↓reduceIte, Dialogue.call_bind, Dialogue.bind_eq,
    Consumer.lift, Dialogue.through, Dialogue.done_bind] at fetched
  have opened := fetched.step (.ok ()) rfl
  simp only [Store.writeRows, List.map_cons, List.map_nil, Dialogue.call_bind, Dialogue.through,
    Dialogue.done_bind] at opened
  have written := opened.step (.ok ()) rfl
  simp only [Dialogue.call_bind, Dialogue.through, Dialogue.done_bind] at written
  have finished := written.step (.ok ()) ⟨[record.toRow], by simp, by simp, rfl⟩
  simp only [mapError_ok, Dialogue.through, Dialogue.done_bind, Dialogue.bind_eq,
    Dialogue.call_bind, Verdict.acceptAll, Consumer.settle, List.length_singleton,
    List.range_one, Consumer.attempt, Nat.zero_lt_one, ↓reduceIte] at finished
  obtain ⟨next, further, shared, _⟩ := finished.step (.ok ()) rfl
  refine ⟨next, further, ?_, ?_, ?_, ?_⟩
  · rw [shared]
  · rw [shared]
  · rw [shared]
    exact List.mem_cons_self
  · rw [shared]
    exact List.mem_append_right _ (List.mem_singleton_self _)

end Deployment
end Telemetry
