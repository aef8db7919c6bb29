import Telemetry.Proofs.Writer

/-!
# A feed without failures

A broker with a given list of batches, and a store that keeps every row, both without failures.  A
worker that is cancelled when no batch is left ends well, and the store has one row for each
message, in the order in which they were fetched.
-/

namespace Telemetry

open Broker

/-- The batches that are still to be fetched, and what the store has. -/
structure Feed where
  batches : List (List Delivery)
  /-- The rows of the open insert. -/
  pending : List Store.Row
  rows : List Store.Row

namespace Feed

/-- What a store replies to the text of a statement, by the rows that it has. -/
abbrev Evaluator := List Store.Row → String → Except Store.Fault (List Histogram.Row)

/-- The store keeps the rows of an insert when it is finished. -/
def store (evaluator : Evaluator) : Dialogue.Collaborators Store.interface Feed
  | .ping _, feed => (.ok (), feed)
  | .select text, feed => (evaluator feed.rows text, feed)
  | .openInsert _ _, feed => (.ok (), { feed with pending := [] })
  | .write row, feed => (.ok (), { feed with pending := feed.pending ++ [row] })
  | .finish, feed => (.ok (), { feed with rows := feed.rows ++ feed.pending, pending := [] })

/-- The broker hands out one batch after the other; without another one the worker is cancelled. -/
def collaborators (evaluator : Evaluator) :
    Dialogue.Collaborators (Consumer.interface Store.interface) Feed
  | .attach _, feed => (.ok (), feed)
  | .cancelled, feed => (feed.batches.isEmpty, feed)
  | .fetch _, feed => (.ok (feed.batches.headD []), { feed with batches := feed.batches.tail })
  | .accept _, feed => (.ok (), feed)
  | .giveBack _, feed => (.ok (), feed)
  | .work request, feed => store evaluator request feed

variable {evaluator : Evaluator} {feed : Feed} {access : Store.Access} {table description : String}

theorem run_lift {α : Type} (dialogue : Dialogue Store.interface α) (feed : Feed) :
    (Consumer.lift dialogue).run (collaborators evaluator) feed =
      dialogue.run (store evaluator) feed := by
  induction dialogue generalizing feed with
  | done result => rfl
  | call request next ih => exact ih _ _

theorem run_writeRows (rows : List Store.Row) (feed : Feed) :
    (Store.writeRows rows).run (store evaluator) feed =
      (.ok (), { feed with pending := [], rows := feed.rows ++ (feed.pending ++ rows) }) := by
  induction rows generalizing feed with
  | nil => simp [Store.writeRows, store]
  | cons row rest ih =>
      rw [Store.writeRows, Dialogue.run_call]
      simp [store, ih]

theorem run_store (described : Store.describe access table = .ok description)
    (records : List Record) (idle : feed.pending = []) :
    (Store.store access table records).run (store evaluator) feed =
      (.ok (), { feed with rows := feed.rows ++ records.map Record.toRow }) := by
  rw [Store.store]
  split
  · rename_i none
    rw [List.isEmpty_iff.mp none]
    simp
  · rw [described]
    simp [Dialogue.run_bind, run_writeRows, store, idle]

theorem run_processor (described : Store.describe access table = .ok description)
    {batch : List Delivery} {records : List Record}
    (read : Writer.decodeFrom 0 batch = .ok records) (idle : feed.pending = []) :
    (Worker.processor access table batch).run (store evaluator) feed =
      (.acceptAll batch.length, { feed with rows := feed.rows ++ records.map Record.toRow }) := by
  rw [Worker.processor_eq_of_read read, Dialogue.run_bind, run_store described records idle]
  rfl

theorem run_attempt {count : Nat} (indices : List Nat) (feed : Feed) :
    (Consumer.attempt count (fun index => .call (.accept index) .done) indices).run
      (collaborators evaluator) feed = (0, feed) := by
  induction indices generalizing feed with
  | nil => rfl
  | cons index rest ih =>
      rw [Consumer.attempt]
      split
      · simp [collaborators, ih, Except.isOk, Except.toBool]
      · exact ih feed

theorem run_handle (described : Store.describe access table = .ok description)
    {batch : List Delivery} {records : List Record}
    (read : Writer.decodeFrom 0 batch = .ok records) (idle : feed.pending = []) :
    (Consumer.handle (Worker.processor access table) batch).run (collaborators evaluator) feed =
      (.ok (), { feed with rows := feed.rows ++ records.map Record.toRow }) := by
  rw [Consumer.handle]
  split
  · rename_i none
    rw [List.isEmpty_iff.mp none] at read
    cases read
    simp
  · simp only [Dialogue.bind_eq, Dialogue.run_bind, run_lift, run_processor described read idle,
      Consumer.settle, Verdict.acceptAll, run_attempt, List.map_nil, Consumer.attempt,
      Dialogue.run_done, Dialogue.pure_eq_done]
    rfl

theorem run_turn (described : Store.describe access table = .ok description)
    (config : Consumer.Config) {batch : List Delivery} {rest : List (List Delivery)}
    {records : List Record} (read : Writer.decodeFrom 0 batch = .ok records)
    (rows : List Store.Row) :
    (Consumer.turn config (Worker.processor access table)).run
        (collaborators evaluator) ⟨batch :: rest, [], rows⟩ =
      (none, ⟨rest, [], rows ++ records.map Record.toRow⟩) := by
  rw [Consumer.turn]
  show ((Consumer.handle (Worker.processor access table) batch).bind _).run
    (collaborators evaluator) ⟨rest, [], rows⟩ = _
  rw [Dialogue.run_bind, run_handle described read rfl]
  rfl

/-- A worker that is fed batches of records stores the rows of all, in order. -/
theorem run_turns (described : Store.describe access table = .ok description)
    (config : Consumer.Config) {α : Type} {message : α → Delivery} {record : α → Record}
    {batches : List (List Delivery)} {sources : List α}
    (decodes : ∀ source ∈ sources, Record.decode (message source).payload = .ok (record source))
    (split : batches.flatten = sources.map message) {turns : Nat} (enough : batches.length < turns)
    (rows : List Store.Row) :
    (Consumer.run config (Worker.processor access table) turns).run
        (collaborators evaluator) ⟨batches, [], rows⟩ =
      (some (.ok ()), ⟨[], [], rows ++ sources.map fun source => (record source).toRow⟩) := by
  obtain ⟨turns, rfl⟩ : ∃ more, turns = more + 1 := ⟨turns - 1, by omega⟩
  rw [Consumer.run]
  induction batches generalizing turns sources rows with
  | nil =>
      rw [List.map_eq_nil_iff.mp split.symm, List.map_nil, List.append_nil]
      rfl
  | cons batch rest ih =>
      obtain ⟨first, others, rfl, here, later⟩ := List.map_eq_append_iff.mp split.symm
      have read : Writer.decodeFrom 0 batch = .ok (first.map record) := by
        rw [← here]
        exact Writer.decodeFrom_map fun source member =>
          decodes source (List.mem_append_left _ member)
      obtain ⟨turns, rfl⟩ : ∃ more, turns = more + 1 :=
        ⟨turns - 1, by rw [List.length_cons] at enough; omega⟩
      have enough : rest.length < turns + 1 := by
        rw [List.length_cons] at enough
        omega
      have further := ih (fun source member => decodes source (List.mem_append_right _ member))
        later.symm (rows ++ first.map fun source => (record source).toRow) turns enough
      rw [Dialogue.untilSome, Dialogue.run_bind, run_turn described config read, List.map_map]
      simpa [Function.comp_def] using further

end Feed
end Telemetry
