import Telemetry.Proofs.Rounds
import Telemetry.Proofs.Writer

/-!
# Batches are written whole

The messages of a batch share one fate over every run of a consumer that writes: all of them are
acknowledged, when each is a record and the one write of the batch succeeds, or all of them go back.
What a run writes is therefore what the batches that it wrote carry, message by message, and as long
as nothing goes back it does not show where one batch ended and the next began.
-/

namespace Telemetry
namespace Writer

open Dialogue Broker
open Broker.Consumer (Round rounds worked? handle History)

section Decisions

/-- The delivery is the record on the wire. -/
abbrev Carries (delivery : Delivery) (record : Record) : Prop :=
  Record.decode delivery.payload = .ok record

/-- How a writer decides on a batch, with what it asks the store. -/
inductive Decision (batch : List Delivery) : List (Exchange interface) → Verdict → Prop
  | misread {before after : List Delivery} {first : Delivery} {why : Undecodable}
      (place : batch = before ++ first :: after)
      (good : ∀ delivery ∈ before, ∃ record, Carries delivery record)
      (bad : Record.decode first.payload = .error why) :
      Decision batch []
        (.returnAll batch.length (.ofFailure (.misread (.message before.length first.subject why))))
  | stored {records : List Record} (read : List.Forall₂ Carries batch records) :
      Decision batch [⟨.store records, .ok ()⟩] (.acceptAll batch.length)
  | unstored {records : List Record} {failure : Failure}
      (read : List.Forall₂ Carries batch records) :
      Decision batch [⟨.store records, .error failure⟩]
        (.returnAll batch.length (.ofFailure failure))

variable {batch : List Delivery} {records : List Record}

theorem exists_record_of_carries (read : List.Forall₂ Carries batch records) {delivery : Delivery}
    (member : delivery ∈ batch) : ∃ record, Carries delivery record := by
  have decoded : decodeFrom 0 batch = .ok records := decodeFrom_eq_ok_iff.mpr read
  obtain ⟨record, -, carried⟩ := exists_record_of_decodeFrom decoded member
  exact ⟨record, carried⟩

theorem decision_of_process {asked : List (Exchange interface)} {verdict : Verdict}
    (full : batch ≠ []) (course : Course (process batch) asked verdict) :
    Decision batch asked verdict := by
  rw [process] at course
  cases decoded : decodeFrom 0 batch with
  | error failure =>
      rw [decoded] at course
      obtain ⟨before, first, after, why, place, good, bad, rfl⟩ :=
        exists_first_of_decodeFrom_eq_error decoded
      obtain ⟨rfl, rfl⟩ := course_done_iff.mp course
      rw [Nat.zero_add]
      exact .misread place good bad
  | ok records =>
      rw [decoded] at course
      have read := decodeFrom_eq_ok_iff.mp decoded
      have some : records ≠ [] := by
        rintro rfl
        exact full (List.forall₂_nil_right_iff.mp read)
      change Course ((store records).bind _) asked verdict at course
      rw [store, if_neg (by simpa using some)] at course
      obtain ⟨reply, rest, rfl, decided⟩ := course_call_iff.mp course
      cases reply with
      | ok _ =>
          obtain ⟨rfl, rfl⟩ := course_done_iff.mp decided
          exact .stored read
      | error failure =>
          obtain ⟨rfl, rfl⟩ := course_done_iff.mp decided
          exact .unstored read

variable {asked : List (Exchange interface)} {verdict : Verdict}

theorem Decision.settles (decision : Decision batch asked verdict) :
    (verdict = .acceptAll batch.length ∧
        ∃ records, List.Forall₂ Carries batch records ∧ asked = [⟨.store records, .ok ()⟩]) ∨
      ∃ incident, verdict = .returnAll batch.length incident ∧
        ∀ records, asked ≠ [⟨.store records, .ok ()⟩] := by
  cases decision with
  | misread => exact .inr ⟨_, rfl, nofun⟩
  | stored read => exact .inl ⟨rfl, _, read, rfl⟩
  | unstored => exact .inr ⟨_, rfl, nofun⟩

theorem Decision.asked_once (decision : Decision batch asked verdict) : asked.length ≤ 1 := by
  cases decision with
  | misread => exact Nat.zero_le 1
  | stored => exact Nat.le_refl 1
  | unstored => exact Nat.le_refl 1

/-- Nothing is asked about a batch with a message that is no record. -/
theorem Decision.exists_first (decision : Decision batch asked verdict)
    (unread : ∃ delivery ∈ batch, ∀ record, ¬ Carries delivery record) :
    asked = [] ∧
      ∃ before first after why, batch = before ++ first :: after ∧
        (∀ delivery ∈ before, ∃ record, Carries delivery record) ∧
        Record.decode first.payload = .error why ∧
        verdict.fatal = some
          (.ofFailure (.misread (.message before.length first.subject why))) := by
  obtain ⟨delivery, member, unread⟩ := unread
  cases decision with
  | misread place good bad => exact ⟨rfl, _, _, _, _, place, good, bad, rfl⟩
  | stored read =>
      obtain ⟨record, carried⟩ := exists_record_of_carries read member
      exact absurd carried (unread record)
  | unstored read =>
      obtain ⟨record, carried⟩ := exists_record_of_carries read member
      exact absurd carried (unread record)

end Decisions

section Fates

/-- The messages of a round's batch share one fate. -/
structure SharedFate (round : Round interface) (result : Option (Except Incident Unit)) :
    Prop where
  /-- Every message is attempted to be acknowledged and none to be returned, or the other way
  around; each of them once. -/
  whole :
    (round.accepted = List.range round.batch.length ∧ round.returned = []) ∨
      (round.accepted = [] ∧ round.returned = List.range round.batch.length)
  /-- The batch is acknowledged exactly when all its messages are records and were stored by the
  one write of the round. -/
  accepted_iff :
    round.accepted = List.range round.batch.length ↔
      ∃ records, List.Forall₂ Carries round.batch records ∧
        round.worked = [⟨.store records, .ok ()⟩]
  asked_once : round.worked.length ≤ 1
  /-- With a message that is no record nothing is written, and the run ends by naming the first
  such message. -/
  misread :
    (∃ delivery ∈ round.batch, ∀ record, ¬ Carries delivery record) →
      round.worked = [] ∧
        ∃ before first after why, round.batch = before ++ first :: after ∧
          (∀ delivery ∈ before, ∃ record, Carries delivery record) ∧
          Record.decode first.payload = .error why ∧
          result = some (.error
            (.ofFailure (.misread (.message before.length first.subject why))))

variable {round : Round interface} {ending : Except Incident Unit}

theorem filter_range_self (count : Nat) :
    (List.range count).filter (· < count) = List.range count :=
  List.filter_eq_self.mpr fun _ member => by simpa using member

/-- A round follows the decision on its batch, whose messages are all attempted one way. -/
theorem exists_decision_of_round (full : round.batch ≠ [])
    (course : Course (handle process round.batch) round.exchanges ending) :
    ∃ verdict failures, Decision round.batch round.worked verdict ∧
      ending = Consumer.conclude round.batch.length verdict failures ∧
      ((round.accepted = List.range round.batch.length ∧ round.returned = [] ∧
          ∃ records, List.Forall₂ Carries round.batch records ∧
            round.worked = [⟨.store records, .ok ()⟩]) ∨
        (round.accepted = [] ∧ round.returned = List.range round.batch.length ∧
          ∀ records, round.worked ≠ [⟨.store records, .ok ()⟩])) := by
  obtain ⟨verdict, failures, processed, accepted, returned, ended⟩ :=
    Consumer.exists_verdict_of_round full course
  have decision := decision_of_process full processed
  refine ⟨verdict, failures, decision, ended, ?_⟩
  rcases decision.settles with ⟨rfl, done⟩ | ⟨incident, rfl, undone⟩
  · exact .inl ⟨accepted.trans (filter_range_self _), returned, done⟩
  · refine .inr ⟨accepted, ?_, undone⟩
    rw [returned, Verdict.returnAll, List.map_map]
    exact (congrArg _ (List.map_id _)).trans (filter_range_self _)

theorem range_length_ne_nil {batch : List Delivery} (full : batch ≠ []) :
    List.range batch.length ≠ [] := by
  rw [Ne, List.range_eq_nil, List.length_eq_zero_iff]
  exact full

theorem sharedFate_of_round {result : Option (Except Incident Unit)} (full : round.batch ≠ [])
    (course : Course (handle process round.batch) round.exchanges ending)
    (fatal : ∀ incident, ending = .error incident → result = some (.error incident)) :
    SharedFate round result := by
  obtain ⟨verdict, failures, decision, rfl, attempted⟩ := exists_decision_of_round full course
  refine ⟨?_, ?_, decision.asked_once, fun unread => ?_⟩
  · rcases attempted with ⟨accepted, returned, -⟩ | ⟨accepted, returned, -⟩
    · exact .inl ⟨accepted, returned⟩
    · exact .inr ⟨accepted, returned⟩
  · rcases attempted with ⟨accepted, -, done⟩ | ⟨accepted, -, undone⟩
    · exact ⟨fun _ => done, fun _ => accepted⟩
    · constructor
      · intro every
        exact absurd (every.symm.trans accepted) (range_length_ne_nil full)
      · rintro ⟨records, -, asked⟩
        exact absurd asked (undone records)
  · obtain ⟨unasked, before, first, after, why, place, good, bad, named⟩ :=
      decision.exists_first unread
    refine ⟨unasked, before, first, after, why, place, good, bad, fatal _ ?_⟩
    rw [Consumer.conclude, named]

end Fates

section Writes

def stored : Exchange interface → List Record
  | ⟨.store records, .ok ()⟩ => records
  | ⟨.store _, .error _⟩ => []

def succeeded : Exchange interface → Bool
  | ⟨.store _, reply⟩ => reply.isOk

/-- The records that a run wrote, in order. -/
def written (exchanges : List (Exchange (Consumer.interface interface))) : List Record :=
  (exchanges.filterMap worked?).flatMap stored

/-- Whether a write succeeded in a round. -/
def isWritten (round : Round interface) : Bool :=
  round.worked.any succeeded

/-- The messages that a run fetched, in the order of their delivery. -/
def delivered (exchanges : List (Exchange (Consumer.interface interface))) : List Delivery :=
  (rounds exchanges).flatMap Round.batch

theorem flatMap_stored_of_not_isWritten {round : Round interface}
    (unwritten : isWritten round = false) : round.worked.flatMap stored = [] := by
  rw [List.flatMap_eq_nil_iff]
  rintro ⟨⟨records⟩, reply⟩ member
  match reply with
  | .ok () =>
      have done : isWritten round = true := List.any_eq_true.mpr ⟨_, member, rfl⟩
      rw [unwritten] at done
      cases done
  | .error _ => rfl

variable {round : Round interface} {ending : Except Incident Unit}

theorem carries_of_isWritten (course : Course (handle process round.batch) round.exchanges ending)
    (done : isWritten round) :
    List.Forall₂ Carries round.batch (round.worked.flatMap stored) := by
  by_cases full : round.batch = []
  · rw [full, Consumer.course_handle_nil_iff] at course
    rw [isWritten, Round.worked, course.1] at done
    cases done
  · obtain ⟨verdict, failures, decision, -⟩ := exists_decision_of_round full course
    rw [isWritten] at done
    generalize round.worked = asked at decision done
    cases decision with
    | misread => cases done
    | stored read => rwa [List.flatMap_singleton]
    | unstored => cases done

theorem carries_of_unreturned
    (course : Course (handle process round.batch) round.exchanges ending)
    (unreturned : round.returned = []) :
    List.Forall₂ Carries round.batch (round.worked.flatMap stored) := by
  by_cases full : round.batch = []
  · rw [full, Consumer.course_handle_nil_iff] at course
    rw [full, Round.worked, course.1]
    exact .nil
  · obtain ⟨verdict, failures, -, -, attempted⟩ := exists_decision_of_round full course
    rcases attempted with ⟨-, -, records, read, asked⟩ | ⟨-, returned, -⟩
    · rw [asked, List.flatMap_singleton]
      exact read
    · exact absurd (returned.symm.trans unreturned) (range_length_ne_nil full)

variable {config : Consumer.Config} {result : Option (Except Incident Unit)}
  {exchanges : List (Exchange (Consumer.interface interface))}

theorem written_eq (history : History config process exchanges result) :
    written exchanges = (rounds exchanges).flatMap fun round => round.worked.flatMap stored := by
  rw [written, history.worked_eq, List.flatMap_assoc]

theorem carries_flatMap {choice : List (Round interface)}
    (each : ∀ round ∈ choice,
      List.Forall₂ Carries round.batch (round.worked.flatMap stored)) :
    List.Forall₂ Carries (choice.flatMap Round.batch)
      (choice.flatMap fun round => round.worked.flatMap stored) := by
  have related : List.Forall₂
      (fun round other : Round interface =>
        List.Forall₂ Carries round.batch (other.worked.flatMap stored)) choice choice :=
    List.forall₂_same.mpr each
  exact List.rel_flatMap related fun _ _ carried => carried

/-- What a run wrote is what its written batches carry. -/
theorem carries_written (history : History config process exchanges result) :
    List.Forall₂ Carries (((rounds exchanges).filter isWritten).flatMap Round.batch)
      (written exchanges) := by
  have silent : ∀ choice : List (Round interface),
      (choice.filter isWritten).flatMap (fun round => round.worked.flatMap stored) =
        choice.flatMap fun round => round.worked.flatMap stored := by
    intro choice
    induction choice with
    | nil => rfl
    | cons round rest ih =>
        cases done : isWritten round with
        | true => rw [List.filter_cons_of_pos done, List.flatMap_cons, List.flatMap_cons, ih]
        | false =>
            rw [List.filter_cons_of_neg (by simpa using done), List.flatMap_cons,
              flatMap_stored_of_not_isWritten done, ih, List.nil_append]
  rw [written_eq history, ← silent]
  refine carries_flatMap fun round member => ?_
  obtain ⟨among, done⟩ := List.mem_filter.mp member
  obtain ⟨ending, course, -⟩ := history.exists_ending among
  exact carries_of_isWritten course done

theorem carries_delivered (history : History config process exchanges result)
    (unreturned : ∀ round ∈ rounds exchanges, round.returned = []) :
    List.Forall₂ Carries (delivered exchanges) (written exchanges) := by
  rw [written_eq history, delivered]
  refine carries_flatMap fun round member => ?_
  obtain ⟨ending, course, -⟩ := history.exists_ending member
  exact carries_of_unreturned course (unreturned round member)

theorem eq_of_carries {deliveries others : List Delivery} {records further : List Record}
    (payloads : deliveries.map Delivery.payload = others.map Delivery.payload)
    (read : List.Forall₂ Carries deliveries records)
    (reread : List.Forall₂ Carries others further) : records = further := by
  let Decodes (payload : Bytes) (record : Record) : Prop := Record.decode payload = .ok record
  have one : List.Forall₂ Decodes (deliveries.map Delivery.payload) records :=
    List.forall₂_map_left_iff.mpr read
  have two : List.Forall₂ Decodes (others.map Delivery.payload) further :=
    List.forall₂_map_left_iff.mpr reread
  rw [payloads] at one
  refine List.right_unique_forall₂' (fun payload record other same also => ?_) one two
  exact Except.ok.inj (same.symm.trans also)

end Writes

/-- The messages of a batch share one fate, and another split writes the same. -/
theorem batches_share_one_fate {config : Consumer.Config} {turns : Nat}
    {exchanges : List (Exchange (Consumer.interface interface))}
    {result : Option (Except Incident Unit)}
    (course : Course (Consumer.run config process turns) exchanges result) :
    (∀ round ∈ rounds exchanges, round.batch ≠ [] → SharedFate round result) ∧
      List.Forall₂ Carries (((rounds exchanges).filter isWritten).flatMap Round.batch)
        (written exchanges) ∧
      ∀ otherConfig otherTurns otherExchanges otherResult,
        Course (Consumer.run otherConfig process otherTurns) otherExchanges otherResult →
        (∀ round ∈ rounds exchanges, round.returned = []) →
        (∀ round ∈ rounds otherExchanges, round.returned = []) →
        (delivered exchanges).map Delivery.payload =
          (delivered otherExchanges).map Delivery.payload →
        written exchanges = written otherExchanges := by
  have history := Consumer.history_of_course course
  refine ⟨?_, carries_written history, ?_⟩
  · intro round member full
    obtain ⟨ending, handled, fatal⟩ := history.exists_ending member
    exact sharedFate_of_round full handled fatal
  · intro otherConfig otherTurns otherExchanges otherResult otherCourse kept otherKept payloads
    have read := carries_delivered history kept
    have reread := carries_delivered (Consumer.history_of_course otherCourse) otherKept
    exact eq_of_carries payloads read reread

section Example

/-- A broker that hands out batches until there are none, and a store; neither ever fails. -/
def obliging : Collaborators (Consumer.interface interface) (List (List Delivery))
  | .attach _, batches => (.ok (), batches)
  | .cancelled, batches => (batches.isEmpty, batches)
  | .fetch _, batches => (.ok (batches.headD []), batches.tail)
  | .accept _, batches => (.ok (), batches)
  | .giveBack _, batches => (.ok (), batches)
  | .work (.store _), batches => (.ok (), batches)

def exampleConsumer : Consumer.Config := ⟨"readings", "writer", "readings.>", 2, 1⟩

/-- What a consumer exchanges when it is given some batches. -/
def exchangesOn (batches : List (List Delivery)) :
    List (Exchange (Consumer.interface interface)) :=
  (Consumer.run exampleConsumer process 5).exchanges obliging batches

def sound (letter : UInt8) : Delivery := ⟨"readings", [18, 1, letter, 26, 0, 34, 0]⟩

def unsound : Delivery := ⟨"readings", []⟩

/-- Two messages are written; then one is returned with an unsound one. -/
theorem one_fate_of_spoilt_batch :
    (∃ round ∈ rounds (exchangesOn [[], [sound 97, sound 98], [sound 97, unsound]]),
      round.batch = [sound 97, unsound] ∧ round.returned = [0, 1] ∧
        SharedFate round
          (some (.error (.ofFailure (.misread (.message 1 "readings" .missingOccurredAt)))))) ∧
      List.Forall₂ Carries [sound 97, sound 98]
        (written (exchangesOn [[], [sound 97, sound 98], [sound 97, unsound]])) ∧
      written (exchangesOn [[sound 97], [sound 98]]) =
        written (exchangesOn [[], [sound 97, sound 98]]) := by
  obtain ⟨fates, carried, -⟩ := batches_share_one_fate
    (course_run obliging (Consumer.run exampleConsumer process 5)
      [[], [sound 97, sound 98], [sound 97, unsound]])
  obtain ⟨-, -, same⟩ := batches_share_one_fate
    (course_run obliging (Consumer.run exampleConsumer process 5) [[sound 97], [sound 98]])
  refine ⟨?_, carried, ?_⟩
  · have member : (⟨[sound 97, unsound], _⟩ : Round interface) ∈
        rounds (exchangesOn [[], [sound 97, sound 98], [sound 97, unsound]]) :=
      List.mem_cons_of_mem _ (List.mem_cons_of_mem _ List.mem_cons_self)
    exact ⟨_, member, rfl, rfl, fates _ member (List.cons_ne_nil _ _)⟩
  · exact same exampleConsumer 5 _ _
      (course_run obliging (Consumer.run exampleConsumer process 5)
        [[], [sound 97, sound 98]])
      (by decide) (by decide) rfl

end Example

end Writer
end Telemetry
