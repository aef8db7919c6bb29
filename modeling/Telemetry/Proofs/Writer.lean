import Mathlib.Data.List.Forall2
import Telemetry.Worker

/-!
# Deciding on batches

A batch is decoded message by message: it makes one record for each message, or it fails because
some message of it is no record.  A batch that fails goes back before the store is asked; a batch of
records is decided by the outcome of its one write.
-/

namespace Telemetry
namespace Writer

variable {index : Nat} {batch : List Broker.Delivery} {records : List Record}

/-- A batch makes records exactly when each message makes the record in its place. -/
theorem decodeFrom_eq_ok_iff :
    decodeFrom index batch = .ok records ↔
      List.Forall₂ (fun delivery record => Record.decode delivery.payload = .ok record)
        batch records := by
  induction batch generalizing index records with
  | nil => simp [decodeFrom, eq_comm]
  | cons delivery rest ih =>
      rw [decodeFrom]
      cases decoded : Record.decode delivery.payload with
      | error why =>
          constructor
          · rintro ⟨⟩
          · rintro ⟨⟩
            simp_all
      | ok record =>
          constructor
          · intro good
            cases further : decodeFrom (index + 1) rest with
            | error failure => simp [further, Except.map] at good
            | ok others =>
                simp only [further, Except.map, Except.ok.injEq] at good
                subst good
                exact .cons decoded (ih.mp further)
          · rintro ⟨⟩
            rename_i first others same inside
            rw [ih.mpr inside]
            rw [decoded, Except.ok.injEq] at same
            rw [same]
            rfl

theorem exists_record_of_decodeFrom (read : decodeFrom index batch = .ok records)
    {delivery : Broker.Delivery} (member : delivery ∈ batch) :
    ∃ record ∈ records, Record.decode delivery.payload = .ok record := by
  have matched := decodeFrom_eq_ok_iff.mp read
  clear read
  induction matched with
  | nil => cases member
  | @cons first record rest others decoded _ ih =>
      rcases List.mem_cons.mp member with rfl | inside
      · exact ⟨record, List.mem_cons_self, decoded⟩
      · obtain ⟨found, place, same⟩ := ih inside
        exact ⟨found, List.mem_cons_of_mem _ place, same⟩

theorem exists_delivery_of_decodeFrom (read : decodeFrom index batch = .ok records)
    {record : Record} (member : record ∈ records) :
    ∃ delivery ∈ batch, Record.decode delivery.payload = .ok record := by
  have matched := decodeFrom_eq_ok_iff.mp read
  clear read
  induction matched with
  | nil => cases member
  | @cons delivery first rest others decoded _ ih =>
      rcases List.mem_cons.mp member with rfl | inside
      · exact ⟨delivery, List.mem_cons_self, decoded⟩
      · obtain ⟨found, place, same⟩ := ih inside
        exact ⟨found, List.mem_cons_of_mem _ place, same⟩

theorem decodeFrom_map {α : Type} {message : α → Broker.Delivery} {record : α → Record}
    {sources : List α}
    (decodes : ∀ source ∈ sources, Record.decode (message source).payload = .ok (record source)) :
    decodeFrom index (sources.map message) = .ok (sources.map record) := by
  rw [decodeFrom_eq_ok_iff, List.forall₂_map_left_iff, List.forall₂_map_right_iff,
    List.forall₂_same]
  exact decodes

/-- A batch fails because of the first message of it that is no record. -/
theorem exists_first_of_decodeFrom_eq_error {failure : Failure}
    (failed : decodeFrom index batch = .error failure) :
    ∃ before first after why, batch = before ++ first :: after ∧
      (∀ delivery ∈ before, ∃ record, Record.decode delivery.payload = .ok record) ∧
      Record.decode first.payload = .error why ∧
      failure = .misread (.message (index + before.length) first.subject why) := by
  induction batch generalizing index with
  | nil => cases failed
  | cons delivery rest ih =>
      rw [decodeFrom] at failed
      cases decoded : Record.decode delivery.payload with
      | error why =>
          rw [decoded] at failed
          cases failed
          exact ⟨[], delivery, rest, why, rfl, List.forall_mem_nil _, decoded, rfl⟩
      | ok record =>
          rw [decoded] at failed
          cases further : decodeFrom (index + 1) rest with
          | ok others => simp [further, Except.map] at failed
          | error reason =>
              simp only [further, Except.map, Except.error.injEq] at failed
              subst failed
              obtain ⟨before, first, after, why, rfl, good, bad, rfl⟩ := ih further
              refine ⟨delivery :: before, first, after, why, rfl, ?_, bad, ?_⟩
              · exact List.forall_mem_cons.mpr ⟨⟨record, decoded⟩, good⟩
              · rw [List.length_cons, Nat.add_assoc, Nat.add_comm 1]

theorem exists_of_decodeFrom_eq_error {failure : Failure}
    (failed : decodeFrom index batch = .error failure) :
    ∃ place, ∃ delivery ∈ batch, ∃ why, Record.decode delivery.payload = .error why ∧
      failure = .misread (.message place delivery.subject why) := by
  obtain ⟨before, first, after, why, rfl, -, bad, rfl⟩ :=
    exists_first_of_decodeFrom_eq_error failed
  exact ⟨_, first, List.mem_append_right _ List.mem_cons_self, why, bad, rfl⟩

end Writer

namespace Worker

variable {access : Store.Access} {table : String} {batch : List Broker.Delivery}
  {records : List Record}

theorem processor_eq_of_misread {failure : Failure}
    (failed : Writer.decodeFrom 0 batch = .error failure) :
    processor access table batch = .done (.returnAll batch.length (.ofFailure failure)) := by
  simp [processor, Writer.process, failed, Dialogue.through]

theorem processor_eq_of_read (read : Writer.decodeFrom 0 batch = .ok records) :
    processor access table batch =
      (Store.store access table records).bind fun
        | .ok () => .done (.acceptAll batch.length)
        | .error failure => .done (.returnAll batch.length (.ofFailure failure)) := by
  rw [processor, Writer.process, read]
  cases records with
  | nil => rfl
  | cons record rest =>
      simp only [Writer.store, List.isEmpty_cons, Bool.false_eq_true, ↓reduceIte,
        Dialogue.call_bind, Dialogue.done_bind, Dialogue.through, storing]
      congr 1
      funext stored
      cases stored <;> rfl

theorem processor_ne_of_read {why : Misread} (read : Writer.decodeFrom 0 batch = .ok records) :
    processor access table batch ≠
      .done (.returnAll batch.length (.ofFailure (.misread why))) := by
  rw [processor_eq_of_read read]
  cases records with
  | nil => simp [Store.store, Broker.Verdict.acceptAll, Broker.Verdict.returnAll]
  | cons record rest =>
      cases described : Store.describe access table with
      | error fault =>
          simp [Store.store, described, Store.Fault.toFailure, Broker.Verdict.returnAll,
            Incident.ofFailure]
      | ok description => simp [Store.store, described]

end Worker
end Telemetry
