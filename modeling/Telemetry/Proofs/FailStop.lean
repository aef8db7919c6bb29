import Telemetry.Proofs.Rounds

/-!
# The consumer stops at the first failure

A run of the consumer is a sequence of iterations.  An iteration that fetches a batch has it
processed and then attempts, whatever becomes of each attempt, what the verdict lists within the
batch; the iterations before the last one neither fail nor see a cancellation, and the last one says
how the run ends.  This holds of every processor and of everything that the broker may reply.
-/

namespace Telemetry

namespace Broker
namespace Consumer

open Dialogue

variable {work : Interface}

section Settling

variable {count failures : Nat} {indices : List Nat} {exchanges : List (Exchange (interface work))}
  {settleOne : Nat → Dialogue (interface work) (Except Report Unit)}

def isUnsettled : Exchange (interface work) → Bool
  | ⟨.accept _, reply⟩ => !reply.isOk
  | ⟨.giveBack _, reply⟩ => !reply.isOk
  | _ => false

/-- What is asked to settle a batch: the listed acknowledgements within it, and then the returns. -/
def settlements (count : Nat) (verdict : Verdict) : List (Call work) :=
  (verdict.accepted.filter (· < count)).map .accept ++
    ((verdict.returned.map Prod.fst).filter (· < count)).map .giveBack

theorem failures_of_attempt
    (one : ∀ index inner settled, Course (settleOne index) inner settled →
      inner.countP isUnsettled = if settled.isOk then 0 else 1)
    (course : Course (attempt count settleOne indices) exchanges failures) :
    failures = exchanges.countP isUnsettled := by
  induction indices generalizing exchanges failures with
  | nil =>
      obtain ⟨rfl, rfl⟩ := course_done_iff.mp course
      rfl
  | cons index rest ih =>
      rw [attempt] at course
      split at course
      next inside =>
        obtain ⟨before, settled, _, rfl, first, others⟩ := course_bind_iff.mp course
        obtain ⟨after, later, _, rfl, further, ended⟩ := course_bind_iff.mp others
        obtain ⟨rfl, rfl⟩ := course_done_iff.mp ended
        rw [List.append_nil, List.countP_append, one index before settled first, ← ih further]
        split <;> omega
      next outside => exact ih course

theorem exists_course_attempt {request : Nat → Call work}
    (one : ∀ index exchange, exchange.request = request index →
      ∃ settled, Course (settleOne index) [exchange] settled)
    (asked : exchanges.map Exchange.request = (indices.filter (· < count)).map request) :
    ∃ failures, Course (attempt count settleOne indices) exchanges failures := by
  induction indices generalizing exchanges with
  | nil =>
      obtain rfl := List.map_eq_nil_iff.mp asked
      exact ⟨0, .done 0⟩
  | cons index rest ih =>
      rw [attempt]
      split
      next inside =>
        rw [List.filter_cons_of_pos (by simpa using inside), List.map_cons] at asked
        obtain ⟨exchange, others, rfl, same, later⟩ := List.map_eq_cons_iff.mp asked
        obtain ⟨settled, first⟩ := one index exchange same
        obtain ⟨failures, further⟩ := ih later
        exact ⟨_, course_bind_iff.mpr ⟨[exchange], settled, others, rfl, first,
          course_bind_iff.mpr ⟨others, failures, [], (List.append_nil _).symm, further, .done _⟩⟩⟩
      next outside =>
        rw [List.filter_cons_of_neg (by simpa using outside)] at asked
        exact ih asked

/-- Settling a batch attempts all that the verdict lists within it and counts what failed. -/
theorem course_settle_iff {verdict : Verdict} :
    Course (settle count verdict) exchanges failures ↔
      exchanges.map Exchange.request = settlements count verdict ∧
        failures = exchanges.countP isUnsettled := by
  have accepting (index : Nat) (inner : List (Exchange (interface work)))
      (settled : Except Report Unit) :
      Course (.call (.accept index) .done : Dialogue (interface work) _) inner settled ↔
        inner = [⟨.accept index, settled⟩] :=
    course_ask_iff
  have returning (index : Nat) (inner : List (Exchange (interface work)))
      (settled : Except Report Unit) :
      Course (.call (.giveBack index) .done : Dialogue (interface work) _) inner settled ↔
        inner = [⟨.giveBack index, settled⟩] :=
    course_ask_iff
  have counted {failures : Nat} (course : Course (settle count verdict) exchanges failures) :
      failures = exchanges.countP isUnsettled := by
    obtain ⟨before, unaccepted, _, rfl, first, others⟩ := course_bind_iff.mp course
    obtain ⟨after, unreturned, _, rfl, second, ended⟩ := course_bind_iff.mp others
    obtain ⟨rfl, rfl⟩ := course_done_iff.mp ended
    rw [List.append_nil, List.countP_append]
    congr 1
    · refine failures_of_attempt (fun index inner settled part => ?_) first
      rw [(accepting index inner settled).mp part]
      cases settled <;> rfl
    · refine failures_of_attempt (fun index inner settled part => ?_) second
      rw [(returning index inner settled).mp part]
      cases settled <;> rfl
  constructor
  · intro course
    exact ⟨requests_of_settle course, counted course⟩
  · rintro ⟨asked, rfl⟩
    obtain ⟨before, after, rfl, first, second⟩ := List.map_eq_append_iff.mp asked
    have accepted : ∃ failures, Course (attempt count (fun index => .call (.accept index) .done)
        verdict.accepted) before failures := by
      refine exists_course_attempt ?_ first
      rintro index ⟨_, reply⟩ rfl
      exact ⟨reply, (accepting index _ _).mpr rfl⟩
    have returned : ∃ failures, Course (attempt count (fun index => .call (.giveBack index) .done)
        (verdict.returned.map Prod.fst)) after failures := by
      refine exists_course_attempt ?_ second
      rintro index ⟨_, reply⟩ rfl
      exact ⟨reply, (returning index _ _).mpr rfl⟩
    obtain ⟨unaccepted, accepted⟩ := accepted
    obtain ⟨unreturned, returned⟩ := returned
    have course : Course (settle count verdict) (before ++ after) (unaccepted + unreturned) :=
      course_bind_iff.mpr ⟨before, unaccepted, after, rfl, accepted, course_bind_iff.mpr
        ⟨after, unreturned, [], (List.append_nil _).symm, returned, .done _⟩⟩
    exact counted course ▸ course

end Settling

section Iterations

/-- How a settled batch ends the run: with the processor's incident or the failures to settle. -/
def ending? (count : Nat) (verdict : Verdict) (failures : Nat) : Option (Except Incident Unit) :=
  match verdict.fatal with
  | some incident => some (.error incident)
  | none =>
      if failures = 0 then none else some (.error (.ofReport (.of (.unsettled failures count))))

/-- One iteration of the loop: what it exchanges, and the result of the run if it ends there. -/
inductive Iteration (config : Config) (processor : Processor work) :
    List (Exchange (interface work)) → Option (Except Incident Unit) → Prop
  /-- A cancellation that is seen ends the run before anything is fetched. -/
  | cancelled : Iteration config processor [⟨.cancelled, true⟩] (some (.ok ()))
  /-- A fetch that fails ends the run. -/
  | unfetched (report : Report) :
      Iteration config processor [⟨.cancelled, false⟩, ⟨.fetch config, .error report⟩]
        (some (.error (.ofReport report)))
  /-- A batch without messages is not processed. -/
  | idle : Iteration config processor [⟨.cancelled, false⟩, ⟨.fetch config, .ok []⟩] none
  /-- A batch with messages is processed, and all that the verdict lists within it is attempted. -/
  | settled {batch : List Delivery} {asked : List (Exchange work)} {verdict : Verdict}
      {settling : List (Exchange (interface work))} (full : batch ≠ [])
      (processed : Course (processor batch) asked verdict)
      (attempted : settling.map Exchange.request = settlements batch.length verdict) :
      Iteration config processor
        (⟨.cancelled, false⟩ :: ⟨.fetch config, .ok batch⟩ :: (asked.map working ++ settling))
        (ending? batch.length verdict (settling.countP isUnsettled))

variable {config : Config} {processor : Processor work} {batch : List Delivery}
  {ending : Except Incident Unit} {inner exchanges : List (Exchange (interface work))}
  {result : Option (Except Incident Unit)}

/-- The result of the run after a batch was handled, if it ends there. -/
def stop? : Except Incident Unit → Option (Except Incident Unit)
  | .ok () => none
  | .error incident => some (.error incident)

theorem stop?_conclude (count : Nat) (verdict : Verdict) (failures : Nat) :
    stop? (conclude count verdict failures) = ending? count verdict failures := by
  rw [ending?, conclude]
  cases verdict.fatal with
  | some incident => rfl
  | none =>
      dsimp only
      by_cases failed : failures = 0
      · rw [if_pos failed, if_neg (by omega), stop?]
      · rw [if_neg failed, if_pos (by omega), stop?]

theorem course_turn_of_handle (handled : Course (handle processor batch) inner ending) :
    Course (turn config processor) (⟨.cancelled, false⟩ :: ⟨.fetch config, .ok batch⟩ :: inner)
      (stop? ending) := by
  refine .call (.call (course_bind_iff.mpr
    ⟨inner, ending, [], (List.append_nil _).symm, handled, ?_⟩))
  cases ending with
  | ok _ => exact .done none
  | error incident => exact .done _

/-- One turn of the loop is one iteration. -/
theorem course_turn_iff :
    Course (turn config processor) exchanges result ↔
      Iteration config processor exchanges result := by
  constructor
  · intro course
    rcases course_turn_cases course with
      ⟨rfl, rfl⟩ | ⟨report, rfl, rfl⟩ | ⟨batch, inner, ending, rfl, handled, same⟩
    · exact .cancelled
    · exact .unfetched report
    · obtain rfl : result = stop? ending := by cases ending <;> exact same
      by_cases full : batch = []
      · subst full
        obtain ⟨rfl, rfl⟩ := course_handle_nil_iff.mp handled
        exact .idle
      · obtain ⟨asked, verdict, settling, failures, processed, settled, rfl, rfl⟩ :=
          (course_handle_iff full).mp handled
        obtain ⟨attempted, rfl⟩ := course_settle_iff.mp settled
        rw [stop?_conclude]
        exact .settled full processed attempted
  · intro iteration
    cases iteration with
    | cancelled => exact .call (.done _)
    | unfetched report => exact .call (.call (.done _))
    | idle => exact course_turn_of_handle (course_handle_nil_iff.mpr ⟨rfl, rfl⟩)
    | settled full processed attempted =>
        rw [← stop?_conclude]
        exact course_turn_of_handle ((course_handle_iff full).mpr
          ⟨_, _, _, _, processed, course_settle_iff.mpr ⟨attempted, rfl⟩, rfl, rfl⟩)

theorem ending?_ne_ok (count : Nat) (verdict : Verdict) (failures : Nat) :
    ending? count verdict failures ≠ some (.ok ()) := by
  rw [ending?]
  cases verdict.fatal with
  | some incident => exact nofun
  | none =>
      dsimp only
      split <;> exact nofun

theorem not_opensTurn_of_settlements {settling : List (Exchange (interface work))} {count : Nat}
    {verdict : Verdict} (attempted : settling.map Exchange.request = settlements count verdict)
    {exchange : Exchange (interface work)} (member : exchange ∈ settling) :
    exchange.request.opensTurn = false := by
  have among := List.mem_map_of_mem (f := Exchange.request) member
  rw [attempted, settlements, List.mem_append, List.mem_map, List.mem_map] at among
  obtain ⟨index, -, same⟩ | ⟨index, -, same⟩ := among <;> exact same ▸ rfl

theorem Iteration.cancelled_mem_iff (iteration : Iteration config processor exchanges result) :
    ⟨.cancelled, true⟩ ∈ exchanges ↔ result = some (.ok ()) := by
  cases iteration with
  | cancelled => exact ⟨fun _ => rfl, fun _ => List.mem_cons_self⟩
  | unfetched report =>
      refine ⟨fun member => ?_, nofun⟩
      rcases List.mem_cons.mp member with same | later
      · cases same
      · cases List.mem_singleton.mp later
  | idle =>
      refine ⟨fun member => ?_, nofun⟩
      rcases List.mem_cons.mp member with same | later
      · cases same
      · cases List.mem_singleton.mp later
  | settled full processed attempted =>
      refine ⟨fun member => ?_, fun same => absurd same (ending?_ne_ok _ _ _)⟩
      rcases List.mem_cons.mp member with same | later
      · cases same
      · rcases List.mem_cons.mp later with same | handled
        · cases same
        · rcases List.mem_append.mp handled with early | late
          · obtain ⟨inner, -, same⟩ := List.mem_map.mp early
            cases same
          · cases not_opensTurn_of_settlements attempted late

/-- What a run can exchange in some turns: iterations that go on, and possibly one that ends it. -/
def Trace (config : Config) (processor : Processor work) (turns : Nat)
    (exchanges : List (Exchange (interface work)))
    (result : Option (Except Incident Unit)) : Prop :=
  ∃ passed : List (List (Exchange (interface work))),
    (∀ part ∈ passed, Iteration config processor part none) ∧
      ((passed.length = turns ∧ exchanges = passed.flatten ∧ result = none) ∨
        ∃ last ending, passed.length < turns ∧ Iteration config processor last (some ending) ∧
          exchanges = passed.flatten ++ last ∧ result = some ending)

theorem course_run_iff {turns : Nat} :
    Course (run config processor turns) exchanges result ↔
      Trace config processor turns exchanges result := by
  simp only [run, course_untilSome_iff, course_turn_iff, Trace]

/-- A run ends well exactly when it sees a cancellation. -/
theorem Trace.eq_ok_iff {turns : Nat} (trace : Trace config processor turns exchanges result) :
    result = some (.ok ()) ↔ ⟨.cancelled, true⟩ ∈ exchanges := by
  obtain ⟨passed, each, whole⟩ := trace
  have unseen : ⟨.cancelled, true⟩ ∉ passed.flatten := by
    intro member
    obtain ⟨part, among, inside⟩ := List.mem_flatten.mp member
    cases (each part among).cancelled_mem_iff.mp inside
  obtain ⟨-, rfl, rfl⟩ | ⟨last, ending, -, iteration, rfl, rfl⟩ := whole
  · exact ⟨nofun, fun member => absurd member unseen⟩
  · rw [List.mem_append, or_iff_right unseen, iteration.cancelled_mem_iff]

end Iterations

/-- A run is iterations that go on and possibly one that ends it. -/
theorem run_stops_at_first_failure {config : Config} {processor : Processor work} {turns : Nat}
    {exchanges : List (Exchange (interface work))} {result : Option (Except Incident Unit)} :
    (Course (run config processor turns) exchanges result ↔
      Trace config processor turns exchanges result) ∧
    (Course (run config processor turns) exchanges result →
      (result = some (.ok ()) ↔ ⟨.cancelled, true⟩ ∈ exchanges)) ∧
    ∀ failed total, (Incident.ofReport (.of (.unsettled failed total))).message =
      s!"failed to settle {failed} of {total} messages" :=
  ⟨course_run_iff, fun course => (course_run_iff.mp course).eq_ok_iff, fun _ _ => rfl⟩

section Example

/-- A processor that asks nobody, lists a message twice and lists messages beyond the batch. -/
def carelessProcessor : Processor ⟨Empty, nofun⟩ := fun _ =>
  .done ⟨[0, 7, 0], [(9, none), (1, some "late")], none⟩

def carelessConsumer : Config := ⟨"readings", "writer", "readings.>", 2, 1⟩

/-- What is exchanged on a batch of two messages when one cannot be acknowledged again. -/
def carelessExchanges : List (Exchange (interface ⟨Empty, nofun⟩)) :=
  [⟨.cancelled, false⟩,
    ⟨.fetch carelessConsumer, .ok [⟨"readings.a", []⟩, ⟨"readings.b", []⟩]⟩,
    ⟨.accept 0, .ok ()⟩, ⟨.accept 0, .error (.of (.stated "late"))⟩, ⟨.giveBack 1, .ok ()⟩]

/-- The attempt that fails is counted, and the run ends there. -/
theorem careless_run_stops :
    Course (run carelessConsumer carelessProcessor 3) carelessExchanges
        (some (.error (.ofReport (.of (.unsettled 1 2))))) ∧
      ⟨.cancelled, true⟩ ∉ carelessExchanges := by
  have course : Course (run carelessConsumer carelessProcessor 3) carelessExchanges
      (some (.error (.ofReport (.of (.unsettled 1 2))))) := by
    have iteration : Iteration carelessConsumer carelessProcessor carelessExchanges _ :=
      @Iteration.settled _ _ _ _ [] _ (carelessExchanges.drop 2) (List.cons_ne_nil _ _) (.done _)
        rfl
    exact run_stops_at_first_failure.1.mpr
      ⟨[], List.forall_mem_nil _, .inr ⟨carelessExchanges, _, by decide, iteration, rfl, rfl⟩⟩
  refine ⟨course, fun seen => ?_⟩
  cases (run_stops_at_first_failure.2.1 course).mpr seen

end Example

end Consumer
end Broker
end Telemetry
