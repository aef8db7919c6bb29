import Telemetry.Proofs.Contract
import Telemetry.Proofs.Deployment.World
import Telemetry.Proofs.Writer

/-!
# What a worker does in a deployment

A worker keeps two promises whatever the replies and whatever others do meanwhile: it hands the
store only rows of published messages, and it acknowledges a message only when the store has the row
of that very message.  The proof follows the worker's dialogue from the inside out: the insert, the
decision on a batch, its settlement, a turn of the loop, the loop.
-/

namespace Telemetry
namespace Deployment

open Broker

/-- The terms on which a worker shares the world. -/
def workerContract : Contract (Consumer.interface Store.interface) (Shared × Desk) where
  drifts before after := before.1.Grows after.1 ∧ after.2 = before.2
  permits request state :=
    match request with
    | .accept index => ∀ id, state.2.held[index]? = some id → state.1.Persisted id
    | .work (.write row) => state.1.Backed row
    | _ => True
  reacts := reacts
  drifts_refl _ := ⟨.refl _, rfl⟩
  drifts_trans left right := ⟨left.1.trans right.1, right.2.trans left.2⟩

/-- The same terms for the part of a worker that talks to the store. -/
def storeContract : Contract Store.interface (Shared × Desk) where
  drifts := workerContract.drifts
  permits request := workerContract.permits (.work request)
  reacts request := workerContract.reacts (.work request)
  drifts_refl := workerContract.drifts_refl
  drifts_trans := workerContract.drifts_trans

/-- From one state to a later one of the same batch. -/
structure Follows (before after : Shared × Desk) : Prop where
  growth : before.1.Grows after.1
  held : after.2.held = before.2.held

section Rules

variable {first second third : Shared × Desk}

theorem Follows.trans (left : Follows first second) (right : Follows second third) :
    Follows first third :=
  ⟨left.growth.trans right.growth, right.held.trans left.held⟩

theorem Follows.of_drifts (drifts : workerContract.drifts first second) : Follows first second :=
  ⟨drifts.1, congrArg Desk.held drifts.2⟩

theorem Follows.of_reacts {request : Consumer.Call Store.interface} {reply : request.Reply}
    (noFetch : ∀ config, request ≠ .fetch config) (reaction : reacts request reply first second) :
    Follows first second :=
  ⟨grows_of_reacts reaction, (frame_of_reacts reaction).held noFetch⟩

theorem Follows.of_work {request : Store.Call} {reply : request.Reply}
    (reaction : storeContract.reacts request reply first second) : Follows first second :=
  .of_reacts (by rintro config ⟨⟩) reaction

theorem keeps_lift {α : Type} {post : α → Shared × Desk → Prop}
    {dialogue : Dialogue Store.interface α} {state : Shared × Desk}
    (keeps : dialogue.Keeps storeContract post state) :
    (Consumer.lift dialogue).Keeps workerContract post state := by
  induction dialogue generalizing state with
  | done result => exact keeps
  | call request next ih =>
      intro later drifts
      refine ⟨(keeps later drifts).1, ?_⟩
      intro reply after reaction
      exact ih reply ((keeps later drifts).2 reply after reaction)

end Rules

section Insert

/-- A finished insert leaves its rows in the store. -/
theorem keeps_writeRows (rows : List Store.Row) (state : Shared × Desk)
    (backed : ∀ row ∈ rows, state.1.Backed row) :
    (Store.writeRows rows).Keeps storeContract
      (fun outcome after => Follows state after ∧
        (outcome = .ok () → ∀ row, row ∈ rows ∨ row ∈ state.2.pending → row ∈ after.1.rows))
      state := by
  induction rows generalizing state with
  | nil =>
      intro later drifts
      refine ⟨trivial, ?_⟩
      intro reply after reaction last drifts'
      have start := (Follows.of_drifts drifts).trans (.of_work reaction)
      refine ⟨start.trans (.of_drifts drifts'), ?_⟩
      cases reply with
      | error fault => rintro ⟨⟩
      | ok _ =>
          obtain ⟨more, _, covered, rfl⟩ := reaction
          rintro - row (impossible | pending)
          · cases impossible
          · rw [← drifts.2] at pending
            exact drifts'.1.rows (covered row pending)
  | cons row rest ih =>
      intro later drifts
      refine ⟨(backed row List.mem_cons_self).grow drifts.1, ?_⟩
      intro reply after reaction
      have start := (Follows.of_drifts drifts).trans (.of_work reaction)
      obtain rfl : after = ({ later.1 with sent := row :: later.1.sent },
        { later.2 with pending := row :: later.2.pending }) := reaction
      cases reply with
      | error fault =>
          intro last drifts'
          exact ⟨start.trans (.of_drifts drifts'), by rintro ⟨⟩⟩
      | ok _ =>
          have further := ih _ fun other member =>
            (backed other (List.mem_cons_of_mem row member)).grow start.growth
          refine further.weaken ?_
          rintro outcome last ⟨follows, stored⟩
          refine ⟨start.trans follows, ?_⟩
          rintro good other (member | pending)
          · rcases List.mem_cons.mp member with rfl | inside
            · exact stored good other (.inr List.mem_cons_self)
            · exact stored good other (.inl inside)
          · rw [← drifts.2] at pending
            exact stored good other (.inr (List.mem_cons_of_mem row pending))

theorem keeps_store (access : Store.Access) (table : String) (records : List Record)
    (state : Shared × Desk) (backed : ∀ record ∈ records, state.1.Backed record.toRow) :
    (Store.store access table records).Keeps storeContract
      (fun outcome after => Follows state after ∧
        (outcome = .ok () → ∀ record ∈ records, record.toRow ∈ after.1.rows)) state := by
  rw [Store.store]
  split
  · rename_i empty
    intro last drifts
    refine ⟨.of_drifts drifts, ?_⟩
    rintro - record member
    rw [List.isEmpty_iff.mp empty] at member
    cases member
  · cases Store.describe access table with
    | error fault =>
        intro last drifts
        exact ⟨.of_drifts drifts, by rintro ⟨⟩⟩
    | ok description =>
        intro later drifts
        refine ⟨trivial, ?_⟩
        intro reply after reaction
        have start := (Follows.of_drifts drifts).trans (.of_work reaction)
        cases reply with
        | error fault =>
            intro last drifts'
            exact ⟨start.trans (.of_drifts drifts'), by rintro ⟨⟩⟩
        | ok _ =>
            have rows := keeps_writeRows (records.map Record.toRow) after (by
              intro row member
              obtain ⟨record, inside, rfl⟩ := List.mem_map.mp member
              exact (backed record inside).grow start.growth)
            refine rows.bind ?_
            rintro outcome written ⟨follows, stored⟩ last drifts'
            refine ⟨start.trans (follows.trans (.of_drifts drifts')), ?_⟩
            intro good record member
            cases outcome with
            | error fault => cases good
            | ok _ =>
                exact drifts'.1.rows (stored rfl _ (.inl (List.mem_map_of_mem member)))

end Insert

section Batch

/-- The messages of a batch, in their order, are those that a worker holds. -/
def Holds (batch : List Delivery) (state : Shared × Desk) : Prop :=
  List.Forall₂ (fun id delivery => state.1.published[id]? = some delivery) state.2.held batch

variable {batch : List Delivery} {state after : Shared × Desk}

theorem Holds.mem_published (holds : Holds batch state) {delivery : Delivery}
    (member : delivery ∈ batch) : delivery ∈ state.1.published := by
  obtain ⟨index, inside, rfl⟩ := List.mem_iff_getElem.mp member
  have same := List.Forall₂.length_eq holds
  exact List.mem_of_getElem? (holds.get (by omega) inside)

theorem Holds.exists_delivery (holds : Holds batch state) {index id : Nat}
    (place : state.2.held[index]? = some id) :
    ∃ delivery ∈ batch, state.1.published[id]? = some delivery := by
  obtain ⟨inside, same⟩ := List.getElem?_eq_some_iff.mp place
  have within : index < batch.length := by
    rw [← List.Forall₂.length_eq holds]
    exact inside
  refine ⟨batch[index], List.getElem_mem within, ?_⟩
  rw [← same]
  exact holds.get inside within

/-- The store has the row of every message that a verdict accepts. -/
def Earned (verdict : Verdict) (state : Shared × Desk) : Prop :=
  ∀ index ∈ verdict.accepted, ∀ id, state.2.held[index]? = some id → state.1.Persisted id

theorem Earned.follow {verdict : Verdict} (earned : Earned verdict state)
    (follows : Follows state after) : Earned verdict after := by
  intro index member id place
  rw [follows.held] at place
  exact (earned index member id place).grow follows.growth

theorem earned_returnAll (count : Nat) (incident : Incident) :
    Earned (.returnAll count incident) state := by
  intro index member
  cases member

/-- A worker accepts a batch only when the store has the rows of its messages. -/
theorem keeps_processor (access : Store.Access) (table : String) (holds : Holds batch state) :
    (Telemetry.Worker.processor access table batch).Keeps storeContract
      (fun verdict after => Follows state after ∧ Earned verdict after) state := by
  cases read : Writer.decodeFrom 0 batch with
  | error failure =>
      rw [Worker.processor_eq_of_misread read]
      intro last drifts
      exact ⟨.of_drifts drifts, earned_returnAll _ _⟩
  | ok records =>
      rw [Worker.processor_eq_of_read read]
      refine (keeps_store access table records state ?_).bind ?_
      · intro record member
        obtain ⟨delivery, inside, decoded⟩ := Writer.exists_delivery_of_decodeFrom read member
        exact ⟨delivery, holds.mem_published inside, record, decoded, rfl⟩
      · rintro outcome after ⟨follows, stored⟩
        cases outcome with
        | error failure =>
            intro last drifts
            exact ⟨follows.trans (.of_drifts drifts), earned_returnAll _ _⟩
        | ok _ =>
            intro last drifts
            have later := follows.trans (.of_drifts drifts)
            refine ⟨later, ?_⟩
            intro index _ id place
            rw [later.held] at place
            obtain ⟨delivery, inside, published⟩ := holds.exists_delivery place
            obtain ⟨record, member, decoded⟩ := Writer.exists_record_of_decodeFrom read inside
            have written := drifts.1.rows (stored rfl record member)
            exact ⟨delivery, record, _, later.growth.getElem? published, decoded, written,
              Store.holds_toRow record⟩

theorem keeps_attempt {count : Nat}
    {settleOne : Nat → Dialogue (Consumer.interface Store.interface) (Except Report Unit)}
    {indices : List Nat} {invariant : Shared × Desk → Prop}
    (settles : ∀ index ∈ indices, ∀ state, invariant state →
      (settleOne index).Keeps workerContract (fun _ => invariant) state)
    (stable : ∀ {first second}, workerContract.drifts first second → invariant first →
      invariant second)
    (start : invariant state) :
    (Consumer.attempt count settleOne indices).Keeps workerContract (fun _ => invariant) state := by
  induction indices generalizing state with
  | nil =>
      intro last drifts
      exact stable drifts start
  | cons index rest ih =>
      have others : ∀ other ∈ rest, ∀ state, invariant state →
          (settleOne other).Keeps workerContract (fun _ => invariant) state := by
        intro other member
        exact settles other (List.mem_cons_of_mem index member)
      rw [Consumer.attempt]
      split
      · refine (settles index List.mem_cons_self state start).bind ?_
        intro settled after held
        refine (ih others held).bind ?_
        intro failures last held' final drifts
        exact stable drifts held'
      · exact ih others start

theorem keeps_settleOne {verdict : Verdict} {request : Consumer.Call Store.interface}
    (noFetch : ∀ config, request ≠ .fetch config)
    (may : ∀ state, Earned verdict state → workerContract.permits request state)
    (earned : Earned verdict state) :
    Dialogue.Keeps workerContract (fun _ => Earned verdict) (.call request .done) state := by
  intro later drifts
  refine ⟨may later (earned.follow (.of_drifts drifts)), ?_⟩
  intro reply after reaction last drifts'
  exact earned.follow (((Follows.of_drifts drifts).trans (.of_reacts noFetch reaction)).trans
    (.of_drifts drifts'))

/-- A verdict that is earned may be carried out. -/
theorem keeps_settle (count : Nat) {verdict : Verdict} (earned : Earned verdict state) :
    (Consumer.settle count verdict).Keeps workerContract (fun _ _ => True) state := by
  have stable {first second : Shared × Desk} (drifts : workerContract.drifts first second)
      (earned : Earned verdict first) : Earned verdict second :=
    earned.follow (.of_drifts drifts)
  refine (keeps_attempt ?_ stable earned).bind ?_
  · intro index member state earned
    exact keeps_settleOne (by rintro config ⟨⟩) (fun _ earned => earned index member) earned
  · intro unaccepted after earned
    refine (keeps_attempt ?_ stable earned).bind ?_
    · intro index _ state earned
      exact keeps_settleOne (by rintro config ⟨⟩) (fun _ _ => trivial) earned
    · intro unreturned last _ final _
      trivial

end Batch

section Loop

variable {state : Shared × Desk}

theorem keeps_handle (access : Store.Access) (table : String) {batch : List Delivery}
    (holds : Holds batch state) :
    (Consumer.handle (Worker.processor access table) batch).Keeps workerContract
      (fun _ _ => True) state := by
  rw [Consumer.handle]
  split
  · intro last _
    trivial
  · refine (keeps_lift (keeps_processor access table holds)).bind ?_
    rintro verdict after ⟨_, earned⟩
    refine (keeps_settle batch.length earned).bind ?_
    intro failures last _ final _
    trivial

theorem keeps_turn (access : Store.Access) (table : String) (config : Consumer.Config)
    (state : Shared × Desk) :
    (Consumer.turn config (Worker.processor access table)).Keeps workerContract
      (fun _ _ => True) state := by
  intro later drifts
  refine ⟨trivial, ?_⟩
  intro reply after reaction
  cases reply with
  | true =>
      intro last _
      trivial
  | false =>
      intro later drifts
      refine ⟨trivial, ?_⟩
      intro reply after reaction
      cases reply with
      | error report =>
          intro last _
          trivial
      | ok batch =>
          obtain ⟨ids, _, places, rfl⟩ := reaction
          have holds : Holds batch (later.1, { later.2 with held := ids }) := places
          refine (keeps_handle access table holds).bind ?_
          intro handled last _
          cases handled with
          | error incident =>
              intro final _
              trivial
          | ok _ =>
              intro final _
              trivial

/-- A worker keeps the contract from its start, however long it runs. -/
theorem keeps_start (access : Store.Access) (table : String) (config : Consumer.Config)
    (turns : Nat) (state : Shared × Desk) :
    (Consumer.start config (Worker.processor access table) turns).Keeps workerContract
      (fun _ _ => True) state := by
  intro later drifts
  refine ⟨trivial, ?_⟩
  intro reply after reaction
  cases reply with
  | error report =>
      intro last _
      trivial
  | ok _ =>
      refine (Dialogue.Keeps.untilSome (fun _ => True) (fun _ _ => True) ?_ turns ?_).weaken ?_
      · intro state _
        refine (keeps_turn access table config state).weaken ?_
        intro result after _ drifted _
        cases result <;> trivial
      · intro drifted _
        trivial
      · intro result last _
        trivial

end Loop

end Deployment
end Telemetry
