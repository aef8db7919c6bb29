import Mathlib.Data.List.Basic
import Telemetry.Broker.Consumer
import Telemetry.Proofs.Course

/-!
# Rounds of a consumer

A run of the consumer is a sequence of rounds, one for each batch that was fetched.  A round is read
off the exchanges of the run: what stands between the fetch and the next look for a cancellation.
`History` says what a run can be, turn by turn; every round of a history is a course of handling its
batch, and only the last one can end the run.
-/

namespace Telemetry
namespace Broker
namespace Consumer

open Dialogue

variable {work : Interface}

section Exchanges

/-- The index of the message that a call attempts to acknowledge. -/
def Call.accepted? : Call work → Option Nat
  | .accept index => some index
  | _ => none

/-- The index of the message that a call attempts to return. -/
def Call.returned? : Call work → Option Nat
  | .giveBack index => some index
  | _ => none

/-- Whether a call begins a turn. -/
def Call.opensTurn : Call work → Bool
  | .cancelled => true
  | _ => false

/-- The batch that an exchange fetched. -/
def fetched? : Exchange (interface work) → Option (List Delivery)
  | ⟨.fetch _, .ok batch⟩ => some batch
  | _ => none

/-- What whoever does the work was asked, with the reply. -/
def worked? : Exchange (interface work) → Option (Exchange work)
  | ⟨.work request, reply⟩ => some ⟨request, reply⟩
  | _ => none

/-- What was exchanged on a batch after it was fetched, until the next turn. -/
structure Round (work : Interface) where
  batch : List Delivery
  exchanges : List (Exchange (interface work))

/-- The rounds of a run, one for each batch that was fetched. -/
def rounds : List (Exchange (interface work)) → List (Round work)
  | [] => []
  | exchange :: rest =>
      match fetched? exchange with
      | some batch => ⟨batch, rest.takeWhile (!·.request.opensTurn)⟩ :: rounds rest
      | none => rounds rest

namespace Round

variable (round : Round work)

def accepted : List Nat :=
  round.exchanges.filterMap (·.request.accepted?)

def returned : List Nat :=
  round.exchanges.filterMap (·.request.returned?)

def worked : List (Exchange work) :=
  round.exchanges.filterMap worked?

end Round

end Exchanges

section Handling

variable {processor : Processor work} {batch : List Delivery} {ending : Except Incident Unit}
  {exchanges : List (Exchange (interface work))}

def working (exchange : Exchange work) : Exchange (interface work) :=
  ⟨.work exchange.request, exchange.reply⟩

theorem course_lift_iff {α : Type} {dialogue : Dialogue work α} {result : α} :
    Course (lift dialogue) exchanges result ↔
      ∃ inner, Course dialogue inner result ∧ exchanges = inner.map working :=
  course_through_iff fun _ _ _ => course_ask_iff

theorem requests_of_attempt {count : Nat} {indices : List Nat} {failures : Nat}
    {settleOne : Nat → Dialogue (interface work) (Except Report Unit)}
    {request : Nat → Call work}
    (one : ∀ index inner settled, Course (settleOne index) inner settled →
      inner.map Exchange.request = [request index])
    (course : Course (attempt count settleOne indices) exchanges failures) :
    exchanges.map Exchange.request = (indices.filter (· < count)).map request := by
  induction indices generalizing exchanges failures with
  | nil =>
      obtain ⟨rfl, -⟩ := course_done_iff.mp course
      rfl
  | cons index rest ih =>
      rw [attempt] at course
      split at course
      next inside =>
        obtain ⟨before, settled, _, rfl, first, others⟩ := course_bind_iff.mp course
        obtain ⟨after, _, _, rfl, later, ended⟩ := course_bind_iff.mp others
        obtain ⟨rfl, -⟩ := course_done_iff.mp ended
        rw [List.append_nil, List.map_append, one index before settled first, ih later,
          List.filter_cons_of_pos (by simpa using inside)]
        rfl
      next outside =>
        rw [ih course, List.filter_cons_of_neg (by simpa using outside)]

theorem requests_of_settle {count : Nat} {verdict : Verdict} {failures : Nat}
    (course : Course (settle count verdict) exchanges failures) :
    exchanges.map Exchange.request =
      (verdict.accepted.filter (· < count)).map .accept ++
        ((verdict.returned.map Prod.fst).filter (· < count)).map .giveBack := by
  obtain ⟨accepting, _, _, rfl, first, others⟩ := course_bind_iff.mp course
  obtain ⟨returning, _, _, rfl, second, ended⟩ := course_bind_iff.mp others
  obtain ⟨rfl, -⟩ := course_done_iff.mp ended
  rw [List.append_nil, List.map_append]
  congr 1
  · refine requests_of_attempt (fun index inner settled part => ?_) first
    rw [course_ask_iff.mp part]
    rfl
  · refine requests_of_attempt (fun index inner settled part => ?_) second
    rw [course_ask_iff.mp part]
    rfl

/-- A batch with messages is first processed and then settled. -/
theorem course_handle_iff (full : batch ≠ []) :
    Course (handle processor batch) exchanges ending ↔
      ∃ asked verdict settling failures, Course (processor batch) asked verdict ∧
        Course (settle batch.length verdict) settling failures ∧
        exchanges = asked.map working ++ settling ∧
        ending = conclude batch.length verdict failures := by
  have unfolded : handle processor batch =
      (lift (processor batch)).bind fun verdict =>
        (settle batch.length verdict).bind fun failures =>
          .done (conclude batch.length verdict failures) := by
    rw [handle, if_neg (by simpa using full)]
    rfl
  rw [unfolded, course_bind_iff]
  constructor
  · rintro ⟨_, verdict, _, rfl, first, others⟩
    obtain ⟨asked, processed, rfl⟩ := course_lift_iff.mp first
    obtain ⟨settling, failures, _, rfl, settled, ended⟩ := course_bind_iff.mp others
    obtain ⟨rfl, rfl⟩ := course_done_iff.mp ended
    exact ⟨asked, verdict, settling, failures, processed, settled, by rw [List.append_nil], rfl⟩
  · rintro ⟨asked, verdict, settling, failures, processed, settled, rfl, rfl⟩
    refine ⟨_, verdict, settling, rfl, course_lift_iff.mpr ⟨asked, processed, rfl⟩, ?_⟩
    exact course_bind_iff.mpr
      ⟨settling, failures, [], (List.append_nil _).symm, settled, .done _⟩

theorem course_handle_nil_iff :
    Course (handle processor []) exchanges ending ↔ exchanges = [] ∧ .ok () = ending :=
  course_done_iff

theorem request_of_handle (course : Course (handle processor batch) exchanges ending)
    {exchange : Exchange (interface work)} (member : exchange ∈ exchanges) :
    (∃ request, exchange.request = .work request) ∨
      (∃ index, exchange.request = .accept index) ∨
      ∃ index, exchange.request = .giveBack index := by
  by_cases full : batch = []
  · rw [full, course_handle_nil_iff] at course
    rw [course.1] at member
    cases member
  · obtain ⟨asked, verdict, settling, failures, -, settled, rfl, -⟩ :=
      (course_handle_iff full).mp course
    rcases List.mem_append.mp member with early | late
    · obtain ⟨inner, -, rfl⟩ := List.mem_map.mp early
      exact .inl ⟨inner.request, rfl⟩
    · have among := List.mem_map_of_mem (f := Exchange.request) late
      rw [requests_of_settle settled] at among
      rcases List.mem_append.mp among with kept | back
      · obtain ⟨index, -, same⟩ := List.mem_map.mp kept
        exact .inr (.inl ⟨index, same.symm⟩)
      · obtain ⟨index, -, same⟩ := List.mem_map.mp back
        exact .inr (.inr ⟨index, same.symm⟩)

theorem filterMap_worked?_of_settle {count : Nat} {verdict : Verdict} {failures : Nat}
    (settled : Course (settle count verdict) exchanges failures) :
    exchanges.filterMap worked? = [] := by
  rw [List.filterMap_eq_nil_iff]
  intro exchange member
  have among := List.mem_map_of_mem (f := Exchange.request) member
  rw [requests_of_settle settled, List.mem_append, List.mem_map, List.mem_map] at among
  obtain ⟨request, reply⟩ := exchange
  obtain ⟨index, -, rfl⟩ | ⟨index, -, rfl⟩ := among <;> rfl

theorem filterMap_request_of_handle {asked : List (Exchange work)} {verdict : Verdict}
    {settling : List (Exchange (interface work))} {failures count : Nat} {α : Type}
    (settled : Course (settle count verdict) settling failures) {read : Call work → Option α}
    (unworked : ∀ request, read (.work request) = none) :
    (asked.map working ++ settling).filterMap (fun exchange => read exchange.request) =
      ((verdict.accepted.filter (· < count)).filterMap fun index => read (.accept index)) ++
        ((verdict.returned.map Prod.fst).filter (· < count)).filterMap fun index =>
          read (.giveBack index) := by
  have requests : settling.filterMap (fun exchange => read exchange.request) =
      (settling.map Exchange.request).filterMap read := by
    rw [List.filterMap_map]
    rfl
  have silent : (asked.map working).filterMap (fun exchange => read exchange.request) = [] := by
    rw [List.filterMap_map, List.filterMap_eq_nil_iff]
    exact fun exchange _ => unworked exchange.request
  rw [List.filterMap_append, silent, List.nil_append, requests, requests_of_settle settled,
    List.filterMap_append, List.filterMap_map, List.filterMap_map]
  rfl

/-- A round does the processor's work and then attempts what its verdict lists. -/
theorem exists_verdict_of_round {round : Round work} (full : round.batch ≠ [])
    (course : Course (handle processor round.batch) round.exchanges ending) :
    ∃ verdict failures, Course (processor round.batch) round.worked verdict ∧
      round.accepted = verdict.accepted.filter (· < round.batch.length) ∧
      round.returned = (verdict.returned.map Prod.fst).filter (· < round.batch.length) ∧
      ending = conclude round.batch.length verdict failures := by
  obtain ⟨asked, verdict, settling, failures, processed, settled, whole, rfl⟩ :=
    (course_handle_iff full).mp course
  have worked : round.worked = asked := by
    rw [Round.worked, whole, List.filterMap_append, filterMap_worked?_of_settle settled,
      List.append_nil, List.filterMap_map]
    exact List.filterMap_some
  refine ⟨verdict, failures, worked ▸ processed, ?_, ?_, rfl⟩
  · rw [Round.accepted, whole, filterMap_request_of_handle settled fun _ => rfl]
    simp only [Call.accepted?, List.filterMap_some, List.filterMap_none, List.append_nil]
  · rw [Round.returned, whole, filterMap_request_of_handle settled fun _ => rfl]
    simp only [Call.returned?, List.filterMap_some, List.filterMap_none, List.nil_append]

end Handling

section Histories

variable {config : Config} {processor : Processor work}
  {exchanges : List (Exchange (interface work))} {result : Option (Except Incident Unit)}

/-- What a run can exchange, and its result if it has ended. -/
inductive History (config : Config) (processor : Processor work) :
    List (Exchange (interface work)) → Option (Except Incident Unit) → Prop
  | running : History config processor [] none
  | cancelled : History config processor [⟨.cancelled, true⟩] (some (.ok ()))
  | unfetched (report : Report) :
      History config processor [⟨.cancelled, false⟩, ⟨.fetch config, .error report⟩]
        (some (.error (.ofReport report)))
  | stopped {batch : List Delivery} {inner : List (Exchange (interface work))}
      {incident : Incident} (course : Course (handle processor batch) inner (.error incident)) :
      History config processor (⟨.cancelled, false⟩ :: ⟨.fetch config, .ok batch⟩ :: inner)
        (some (.error incident))
  | continued {batch : List Delivery} {inner rest : List (Exchange (interface work))}
      {result : Option (Except Incident Unit)}
      (course : Course (handle processor batch) inner (.ok ()))
      (further : History config processor rest result) :
      History config processor
        (⟨.cancelled, false⟩ :: ⟨.fetch config, .ok batch⟩ :: (inner ++ rest)) result

theorem course_turn_cases (course : Course (turn config processor) exchanges result) :
    (exchanges = [⟨.cancelled, true⟩] ∧ result = some (.ok ())) ∨
      (∃ report, exchanges = [⟨.cancelled, false⟩, ⟨.fetch config, .error report⟩] ∧
        result = some (.error (.ofReport report))) ∨
      ∃ batch inner ending,
        exchanges = ⟨.cancelled, false⟩ :: ⟨.fetch config, .ok batch⟩ :: inner ∧
        Course (handle processor batch) inner ending ∧
        result = match ending with
          | .ok () => none
          | .error incident => some (.error incident) := by
  obtain ⟨cancelled, rest, rfl, looked⟩ := course_call_iff.mp course
  match cancelled with
  | true =>
      obtain ⟨rfl, same⟩ := course_done_iff.mp looked
      exact .inl ⟨rfl, same.symm⟩
  | false =>
      obtain ⟨fetched, others, rfl, gotten⟩ := course_call_iff.mp looked
      match fetched with
      | .error report =>
          obtain ⟨rfl, same⟩ := course_done_iff.mp gotten
          exact .inr (.inl ⟨report, rfl, same.symm⟩)
      | .ok batch =>
          obtain ⟨inner, ending, last, rfl, handled, ended⟩ := course_bind_iff.mp gotten
          match ending with
          | .ok () =>
              obtain ⟨rfl, same⟩ := course_done_iff.mp ended
              exact .inr (.inr ⟨batch, inner, .ok (), by rw [List.append_nil], handled, same.symm⟩)
          | .error incident =>
              obtain ⟨rfl, same⟩ := course_done_iff.mp ended
              exact .inr (.inr
                ⟨batch, inner, .error incident, by rw [List.append_nil], handled, same.symm⟩)

/-- Every run has a history. -/
theorem history_of_course {turns : Nat}
    (course : Course (run config processor turns) exchanges result) :
    History config processor exchanges result := by
  induction turns generalizing exchanges with
  | zero =>
      obtain ⟨rfl, rfl⟩ := course_done_iff.mp course
      exact .running
  | succ turns ih =>
      rcases course_untilSome_succ_iff.mp course with
        ⟨value, rfl, ended⟩ | ⟨before, after, rfl, unended, further⟩
      · rcases course_turn_cases ended with
          ⟨rfl, same⟩ | ⟨report, rfl, same⟩ | ⟨batch, inner, ending, rfl, handled, same⟩
        · rw [same]
          exact .cancelled
        · rw [same]
          exact .unfetched report
        · match ending with
          | .ok () => cases same
          | .error incident =>
              rw [same]
              exact .stopped handled
      · rcases course_turn_cases unended with
          ⟨-, same⟩ | ⟨report, -, same⟩ | ⟨batch, inner, ending, rfl, handled, same⟩
        · cases same
        · cases same
        · match ending with
          | .ok () => exact .continued handled (ih further)
          | .error incident => cases same

theorem History.opens (history : History config processor exchanges result) :
    exchanges = [] ∨ ∃ first rest, exchanges = first :: rest ∧ first.request.opensTurn := by
  cases history with
  | running => exact .inl rfl
  | cancelled => exact .inr ⟨_, _, rfl, rfl⟩
  | unfetched => exact .inr ⟨_, _, rfl, rfl⟩
  | stopped => exact .inr ⟨_, _, rfl, rfl⟩
  | continued => exact .inr ⟨_, _, rfl, rfl⟩

theorem rounds_of_handle {batch : List Delivery} {inner rest : List (Exchange (interface work))}
    {ending : Except Incident Unit} (course : Course (handle processor batch) inner ending)
    (opens : rest = [] ∨ ∃ first others, rest = first :: others ∧ first.request.opensTurn) :
    rounds (⟨.cancelled, false⟩ :: ⟨.fetch config, .ok batch⟩ :: (inner ++ rest)) =
      ⟨batch, inner⟩ :: rounds rest := by
  -- None of the exchanges on the batch opens a turn, so the round is cut where they end.
  have handled : ∀ exchange ∈ inner, !exchange.request.opensTurn ∧ fetched? exchange = none := by
    rintro ⟨request, reply⟩ member
    obtain ⟨asked, rfl⟩ | ⟨index, rfl⟩ | ⟨index, rfl⟩ := request_of_handle course member <;>
      exact ⟨rfl, rfl⟩
  have taken : (inner ++ rest).takeWhile (!·.request.opensTurn) = inner := by
    rw [List.takeWhile_append_of_pos fun exchange member => (handled exchange member).1]
    obtain rfl | ⟨first, others, rfl, opened⟩ := opens
    · rw [List.takeWhile_nil, List.append_nil]
    · rw [List.takeWhile_cons_of_neg (by simpa using opened), List.append_nil]
  have later : rounds (inner ++ rest) = rounds rest := by
    clear taken course
    induction inner with
    | nil => rfl
    | cons exchange others ih =>
        rw [List.cons_append, rounds, (handled exchange List.mem_cons_self).2]
        exact ih fun other member => handled other (List.mem_cons_of_mem _ member)
  calc rounds (⟨.cancelled, false⟩ :: ⟨.fetch config, .ok batch⟩ :: (inner ++ rest))
      = ⟨batch, (inner ++ rest).takeWhile (!·.request.opensTurn)⟩ :: rounds (inner ++ rest) := rfl
    _ = ⟨batch, inner⟩ :: rounds rest := by rw [taken, later]

theorem rounds_of_last {batch : List Delivery} {inner : List (Exchange (interface work))}
    {ending : Except Incident Unit} (course : Course (handle processor batch) inner ending) :
    rounds (⟨.cancelled, false⟩ :: ⟨.fetch config, .ok batch⟩ :: inner) = [⟨batch, inner⟩] := by
  have whole := @rounds_of_handle work config _ _ _ _ _ course (.inl rfl)
  rwa [List.append_nil] at whole

/-- A round is a course of handling its batch. -/
theorem History.exists_ending (history : History config processor exchanges result)
    {round : Round work} (member : round ∈ rounds exchanges) :
    ∃ ending, Course (handle processor round.batch) round.exchanges ending ∧
      ∀ incident, ending = .error incident → result = some (.error incident) := by
  induction history with
  | running => cases member
  | cancelled => cases member
  | unfetched => cases member
  | @stopped batch inner incident course =>
      rw [rounds_of_last course] at member
      obtain rfl := List.mem_singleton.mp member
      refine ⟨.error incident, course, fun other same => ?_⟩
      cases same
      rfl
  | continued course further ih =>
      rw [rounds_of_handle course further.opens] at member
      rcases List.mem_cons.mp member with rfl | later
      · exact ⟨.ok (), course, fun _ impossible => nomatch impossible⟩
      · exact ih later

/-- What is read off the work and its settling is read off the rounds. -/
theorem History.filterMap_eq {α : Type} (history : History config processor exchanges result)
    {read : Exchange (interface work) → Option α}
    (unlooked : ∀ reply, read ⟨.cancelled, reply⟩ = none)
    (unfetched : ∀ config reply, read ⟨.fetch config, reply⟩ = none) :
    exchanges.filterMap read =
      (rounds exchanges).flatMap fun round => round.exchanges.filterMap read := by
  induction history with
  | running => rfl
  | cancelled => rw [List.filterMap_cons_none (unlooked true)]; rfl
  | unfetched =>
      rw [List.filterMap_cons_none (unlooked false), List.filterMap_cons_none (unfetched _ _)]
      rfl
  | @stopped batch inner incident course =>
      rw [List.filterMap_cons_none (unlooked false), List.filterMap_cons_none (unfetched _ _),
        rounds_of_last course, List.flatMap_singleton]
  | continued course further ih =>
      rw [List.filterMap_cons_none (unlooked false), List.filterMap_cons_none (unfetched _ _),
        rounds_of_handle course further.opens, List.filterMap_append, List.flatMap_cons, ih]

theorem History.worked_eq (history : History config processor exchanges result) :
    exchanges.filterMap worked? = (rounds exchanges).flatMap Round.worked :=
  history.filterMap_eq (fun _ => rfl) fun _ _ => rfl

end Histories

end Consumer
end Broker
end Telemetry
