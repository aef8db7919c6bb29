import Mathlib.Data.List.Perm.Basic
import Mathlib.Logic.Relation
import Telemetry.Proofs.Contract
import Telemetry.Supervision

/-!
# Supervision outlasts its processes

Supervision and its processes take steps in any order: processes stop when and how they like, stopped
ones are joined in any order, and anyone may cancel at any time.  Whatever happens, the processes are
cancelled as soon as one has been joined, no closer is called before all have been joined, and the
first failure among them, in the order of joining, is the outcome.
-/

namespace Telemetry
namespace Supervision

open Dialogue

/-- What supervision has started. -/
structure Crew where
  /-- The processes that run. -/
  running : List String
  /-- The processes that have stopped and have not been joined. -/
  stopped : List (String × Ending)
  /-- The processes that have been joined, in that order. -/
  joined : List (String × Ending)
  /-- Whether the processes have been cancelled. -/
  cancelled : Bool
  /-- The closers that have been called, each with its words if it broke down. -/
  closed : List (Nat × Option String)

namespace Crew

def none : Crew := ⟨[], [], [], false, []⟩

/-- The names of the processes that have been started and not been joined. -/
def unjoined (crew : Crew) : List String :=
  crew.running ++ crew.stopped.map Prod.fst

/-- All processes of a plan have stopped, and each has been joined once. -/
structure AllStopped (plan : Plan) (crew : Crew) : Prop where
  running : crew.running = []
  stopped : crew.stopped = []
  joined : (crew.joined.map Prod.fst).Perm plan.processes

/-- What processes and others than supervision may do: processes stop, and anyone cancels. -/
structure Drifts (before after : Crew) : Prop where
  unjoined : after.unjoined.Perm before.unjoined
  joined : after.joined = before.joined
  cancelled : before.cancelled = true → after.cancelled = true
  closed : after.closed = before.closed

end Crew

/-- What a call of supervision does to its crew. -/
def reacts : (request : Call) → request.Reply → Crew → Crew → Prop
  | .start name, _, crew, after => after = { crew with running := name :: crew.running }
  | .join, process, crew, after =>
      ∃ earlier later, crew.stopped = earlier ++ process :: later ∧
        after = { crew with stopped := earlier ++ later, joined := crew.joined ++ [process] }
  | .cancel, _, crew, after => after = { crew with cancelled := true }
  | .close index, words, crew, after =>
      after = { crew with closed := crew.closed ++ [(index, words)] }
  | .drain _, _, crew, after => after = crew

structure Scene where
  /-- What supervision has left to do. -/
  residual : Dialogue interface Conclusion
  crew : Crew

/-- One step of supervision, of a process or of someone who cancels. -/
inductive Step (scene : Scene) : Scene → Prop
  /-- Supervision makes its next call. -/
  | call (request : Call) (next : request.Reply → Dialogue interface Conclusion)
      (due : scene.residual = .call request next) (reply : request.Reply) (after : Crew)
      (reaction : reacts request reply scene.crew after) : Step scene ⟨next reply, after⟩
  /-- A process stops in some way. -/
  | stop (name : String) (ending : Ending) (earlier later : List String)
      (runs : scene.crew.running = earlier ++ name :: later) :
      Step scene { scene with crew := { scene.crew with
        running := earlier ++ later
        stopped := scene.crew.stopped ++ [(name, ending)] } }
  /-- Someone cancels the processes. -/
  | interrupt : Step scene { scene with crew := { scene.crew with cancelled := true } }

/-- The scenes that steps lead to from the beginning of supervision. -/
def Reachable (plan : Plan) : Scene → Prop :=
  Relation.ReflTransGen Step ⟨supervise plan, .none⟩

/-- When supervision may make a call. -/
structure Permits (plan : Plan) (request : Call) (crew : Crew) : Prop where
  /-- Nothing but the cancellation comes between joining and cancelling. -/
  cancelled : crew.joined ≠ [] → crew.cancelled = true ∨ request = .cancel
  /-- Closers are called when all processes have stopped. -/
  closers : (crew.closed ≠ [] ∨ ∃ index, request = .close index) → crew.AllStopped plan
  /-- There is a process to wait for. -/
  awaited : request = .join → crew.running ≠ [] ∨ crew.stopped ≠ []

/-- The terms of supervision. -/
def contract (plan : Plan) : Contract interface Crew where
  drifts := Crew.Drifts
  permits := Permits plan
  reacts := reacts
  drifts_refl _ := ⟨.refl _, rfl, id, rfl⟩
  drifts_trans earlier later :=
    ⟨later.unjoined.trans earlier.unjoined, later.joined.trans earlier.joined,
      later.cancelled ∘ earlier.cancelled, later.closed.trans earlier.closed⟩

/-- The first incident among processes that were joined in an order. -/
def firstIncident (joined : List (String × Ending)) : Option Incident :=
  joined.findSome? fun process => process.2.incident? process.1

section Parts

variable {plan : Plan} {crew after : Crew}

namespace Crew

theorem Drifts.effective (drifts : crew.Drifts after)
    (cancelled : crew.joined ≠ [] → crew.cancelled = true) :
    after.joined ≠ [] → after.cancelled = true :=
  fun some => drifts.cancelled (cancelled (drifts.joined ▸ some))

theorem AllStopped.drift (ended : crew.AllStopped plan) (drifts : crew.Drifts after) :
    after.AllStopped plan := by
  have idle := drifts.unjoined
  rw [unjoined, unjoined, ended.running, ended.stopped, List.map_nil, List.nil_append,
    List.perm_nil, List.append_eq_nil_iff, List.map_eq_nil_iff] at idle
  exact ⟨idle.1, idle.2, drifts.joined ▸ ended.joined⟩

end Crew

/-- What holds while processes are started. -/
structure Starting (plan : Plan) (rest : List String) (crew : Crew) : Prop where
  processes : (crew.unjoined ++ rest).Perm plan.processes
  joined : crew.joined = []
  closed : crew.closed = []

/-- What holds while so many processes are awaited. -/
structure Awaiting (plan : Plan) (waiting : Nat) (crew : Crew) : Prop where
  count : crew.unjoined.length = waiting
  processes : (crew.unjoined ++ crew.joined.map Prod.fst).Perm plan.processes
  closed : crew.closed = []

/-- What holds once all processes have stopped. -/
structure Closing (plan : Plan) (joined : List (String × Ending)) (crew : Crew) : Prop where
  ended : crew.AllStopped plan
  joined : crew.joined = joined
  cancelled : crew.joined ≠ [] → crew.cancelled = true

theorem Starting.drift {rest : List String} (starting : Starting plan rest crew)
    (drifts : crew.Drifts after) : Starting plan rest after where
  processes := (drifts.unjoined.append_right rest).trans starting.processes
  joined := drifts.joined.trans starting.joined
  closed := drifts.closed.trans starting.closed

theorem Awaiting.drift {waiting : Nat} (awaiting : Awaiting plan waiting crew)
    (drifts : crew.Drifts after) : Awaiting plan waiting after where
  count := drifts.unjoined.length_eq.trans awaiting.count
  processes := by
    rw [drifts.joined]
    exact (drifts.unjoined.append_right _).trans awaiting.processes
  closed := drifts.closed.trans awaiting.closed

theorem Closing.drift {joined : List (String × Ending)} (closing : Closing plan joined crew)
    (drifts : crew.Drifts after) : Closing plan joined after where
  ended := closing.ended.drift drifts
  joined := drifts.joined.trans closing.joined
  cancelled := drifts.effective closing.cancelled

theorem Awaiting.exists_unjoined {waiting : Nat} (awaiting : Awaiting plan (waiting + 1) crew) :
    crew.running ≠ [] ∨ crew.stopped ≠ [] := by
  have count := awaiting.count
  rw [Crew.unjoined, List.length_append, List.length_map] at count
  by_contra idle
  rw [not_or, not_not, not_not] at idle
  rw [idle.1, idle.2] at count
  cases count

theorem Awaiting.allStopped (awaiting : Awaiting plan 0 crew) : crew.AllStopped plan := by
  have idle := List.length_eq_zero_iff.mp awaiting.count
  have joined := awaiting.processes
  rw [idle, List.nil_append] at joined
  rw [Crew.unjoined, List.append_eq_nil_iff, List.map_eq_nil_iff] at idle
  exact ⟨idle.1, idle.2, joined⟩

theorem Awaiting.join {waiting : Nat} {process : String × Ending}
    (awaiting : Awaiting plan (waiting + 1) crew) (joins : reacts .join process crew after) :
    Awaiting plan waiting after ∧ after.joined = crew.joined ++ [process] := by
  obtain ⟨earlier, later, present, rfl⟩ := joins
  have taken : crew.unjoined.Perm
      (process.1 :: (crew.running ++ (earlier ++ later).map Prod.fst)) := by
    rw [Crew.unjoined, present, List.map_append, List.map_append, List.map_cons,
      ← List.append_assoc, ← List.append_assoc]
    exact List.perm_middle
  refine ⟨⟨?_, ?_, awaiting.closed⟩, rfl⟩
  · have count := taken.length_eq
    rw [awaiting.count, List.length_cons] at count
    exact (Nat.succ.inj count).symm
  · rw [List.map_append, ← List.append_assoc]
    exact (List.perm_append_singleton _ _).trans
      ((taken.append_right _).symm.trans awaiting.processes)

/-- Before any closer has been called, other calls need not wait for the processes. -/
theorem closers_of_none {request : Call} (none : crew.closed = [])
    (other : ∀ index, request ≠ .close index) :
    (crew.closed ≠ [] ∨ ∃ index, request = .close index) → crew.AllStopped plan := by
  rintro (some | ⟨index, same⟩)
  · exact absurd none some
  · exact absurd same (other index)

theorem keeps_startAll {rest : List String} (starting : Starting plan rest crew) :
    (startAll rest).Keeps (contract plan)
      (fun _ after => Awaiting plan plan.processes.length after ∧ after.joined = []) crew := by
  induction rest generalizing crew with
  | nil =>
      intro later drifts
      have started := starting.drift drifts
      have all := started.processes
      rw [List.append_nil] at all
      refine ⟨⟨all.length_eq, ?_, started.closed⟩, started.joined⟩
      rwa [started.joined, List.map_nil, List.append_nil]
  | cons name rest ih =>
      intro later drifts
      have started := starting.drift drifts
      refine ⟨⟨fun some => absurd started.joined some, closers_of_none started.closed nofun,
        nofun⟩, ?_⟩
      rintro reply after rfl
      exact ih ⟨List.perm_middle.symm.trans started.processes, started.joined, started.closed⟩

/-- Every awaited process is joined, and the first incident among all is found. -/
theorem keeps_joinAll {waiting : Nat} (awaiting : Awaiting plan waiting crew)
    (cancelled : crew.joined ≠ [] → crew.cancelled = true) :
    (joinAll waiting (firstIncident crew.joined)).Keeps (contract plan)
      (fun first after => Closing plan after.joined after ∧ first = firstIncident after.joined ∧
        after.closed = []) crew := by
  induction waiting generalizing crew with
  | zero =>
      intro later drifts
      have awaited := awaiting.drift drifts
      exact ⟨⟨awaited.allStopped, rfl, drifts.effective cancelled⟩, by rw [drifts.joined],
        awaited.closed⟩
  | succ waiting ih =>
      intro later drifts
      have awaited := awaiting.drift drifts
      refine ⟨⟨fun some => .inl (drifts.effective cancelled some),
        closers_of_none awaited.closed nofun, fun _ => awaited.exists_unjoined⟩, ?_⟩
      intro process joining joins cancelling drifts'
      obtain ⟨further, joined⟩ := awaited.join joins
      have further := further.drift drifts'
      refine ⟨⟨fun _ => .inr rfl, closers_of_none further.closed nofun, nofun⟩, ?_⟩
      rintro reply after rfl
      have first : (firstIncident crew.joined).or (process.2.incident? process.1) =
          firstIncident cancelling.joined := by
        rw [drifts'.joined, joined, drifts.joined, firstIncident, firstIncident,
          List.findSome?_append, List.findSome?_singleton]
      rw [first]
      have rest : Awaiting plan waiting { cancelling with cancelled := true } :=
        ⟨further.count, further.processes, further.closed⟩
      exact ih rest fun _ => rfl

/-- Closers are called only when all processes have stopped, and stop nothing but themselves. -/
theorem keeps_closeAll {rest : List Nat} {joined : List (String × Ending)}
    (closing : Closing plan joined crew) :
    (closeAll rest).Keeps (contract plan)
      (fun words after => Closing plan joined after ∧
        ∀ text, words = some text → ∃ index, (index, some text) ∈ after.closed) crew := by
  induction rest generalizing crew with
  | nil =>
      intro later drifts
      exact ⟨closing.drift drifts, nofun⟩
  | cons index rest ih =>
      intro later drifts
      have closed := closing.drift drifts
      refine ⟨⟨fun some => .inl (closed.cancelled some), fun _ => closed.ended, nofun⟩, ?_⟩
      rintro words after rfl
      have called : Closing plan joined
          { later with closed := later.closed ++ [(index, words)] } :=
        ⟨⟨closed.ended.running, closed.ended.stopped, closed.ended.joined⟩, closed.joined,
          closed.cancelled⟩
      cases words with
      | none => exact ih called
      | some text =>
          intro further drifts'
          refine ⟨called.drift drifts', fun other same => ⟨index, ?_⟩⟩
          rw [drifts'.closed, ← same]
          exact List.mem_append_right _ (List.mem_singleton_self _)

theorem keeps_runClosers {joined : List (String × Ending)} (closing : Closing plan joined crew) :
    (runClosers plan).Keeps (contract plan)
      (fun words after => Closing plan joined after ∧
        ∀ text, words = some text → ∃ index, (index, some text) ∈ after.closed) crew := by
  rw [runClosers]
  split
  · intro later drifts
    exact ⟨closing.drift drifts, nofun⟩
  refine (keeps_closeAll closing).bind fun words after called => ?_
  cases words with
  | some text =>
      intro later drifts
      exact ⟨called.1.drift drifts, drifts.closed ▸ called.2⟩
  | none =>
      intro later drifts
      have closed := called.1.drift drifts
      refine ⟨⟨fun some => .inl (closed.cancelled some), fun _ => closed.ended, nofun⟩, ?_⟩
      rintro reply drained rfl further drifts'
      exact ⟨closed.drift drifts', nofun⟩

/-- What holds when supervision ends. -/
structure Ended (plan : Plan) (conclusion : Conclusion) (crew : Crew) : Prop where
  stopped : crew.AllStopped plan
  cancelled : crew.joined ≠ [] → crew.cancelled = true
  outcome : (∀ call ∈ crew.closed, call.2 = none) →
    conclusion = .returned (outcomeOf (firstIncident crew.joined))

/-- Supervision keeps to its terms from the beginning to its end. -/
theorem keeps_supervise (plan : Plan) :
    (supervise plan).Keeps (contract plan) (Ended plan) .none := by
  have starting : Starting plan plan.processes .none := ⟨.refl _, rfl, rfl⟩
  refine (keeps_startAll starting).bind fun _ started awaiting => ?_
  have join := keeps_joinAll awaiting.1 fun some => absurd awaiting.2 some
  rw [awaiting.2] at join
  refine join.bind fun first joined found => ?_
  obtain ⟨closing, rfl, -⟩ := found
  refine (keeps_runClosers closing).bind fun words closed called => ?_
  cases words with
  | some text =>
      intro later drifts
      have ended := called.1.drift drifts
      refine ⟨ended.ended, ended.cancelled, fun returned => ?_⟩
      obtain ⟨index, member⟩ := called.2 text rfl
      cases returned _ (drifts.closed ▸ member)
  | none =>
      intro later drifts
      have ended := called.1.drift drifts
      exact ⟨ended.ended, ended.cancelled, fun _ => by rw [ended.joined]⟩

end Parts

section Scenes

variable {plan : Plan} {scene next : Scene}

theorem drifts_stop {crew : Crew} {name : String} (ending : Ending) {earlier later : List String}
    (runs : crew.running = earlier ++ name :: later) :
    crew.Drifts { crew with
      running := earlier ++ later
      stopped := crew.stopped ++ [(name, ending)] } := by
  refine ⟨?_, rfl, id, rfl⟩
  rw [Crew.unjoined, Crew.unjoined, runs, List.map_append, ← List.append_assoc]
  refine (List.perm_append_singleton _ _).trans ?_
  exact (List.perm_middle.append_right _).symm

theorem keeps_step (keeps : scene.residual.Keeps (contract plan) (Ended plan) scene.crew)
    (step : Step scene next) : next.residual.Keeps (contract plan) (Ended plan) next.crew := by
  cases step with
  | call request continuation due reply after reaction =>
      rw [due] at keeps
      exact keeps.step reaction
  | stop name ending earlier later runs => exact keeps.drift (drifts_stop ending runs)
  | interrupt => exact keeps.drift ⟨.refl _, rfl, fun _ => rfl, rfl⟩

theorem keeps_of_steps (keeps : scene.residual.Keeps (contract plan) (Ended plan) scene.crew)
    (steps : Relation.ReflTransGen Step scene next) :
    next.residual.Keeps (contract plan) (Ended plan) next.crew := by
  induction steps with
  | refl => exact keeps
  | tail _ step ih => exact keeps_step ih step

theorem exists_reaction {request : Call} {crew : Crew} (permits : Permits plan request crew)
    (residual : Dialogue interface Conclusion) :
    ∃ ready, Relation.ReflTransGen Step ⟨residual, crew⟩ ⟨residual, ready⟩ ∧
      ∃ reply after, reacts request reply ready after := by
  cases request with
  | start name => exact ⟨crew, .refl, (), _, rfl⟩
  | cancel => exact ⟨crew, .refl, (), _, rfl⟩
  | close index => exact ⟨crew, .refl, none, _, rfl⟩
  | drain timeout => exact ⟨crew, .refl, (), _, rfl⟩
  | join =>
      obtain ⟨running, stopped, joined, cancelled, closed⟩ := crew
      cases stopped with
      | cons process rest => exact ⟨_, .refl, process, _, [], rest, rfl, rfl⟩
      | nil =>
          cases running with
          | nil => exact absurd (permits.awaited rfl) (by simp)
          | cons name rest =>
              exact ⟨_, .single (.stop name .finished [] rest rfl), (name, .finished), _, [], [], rfl,
                rfl⟩

/-- From wherever it stands, supervision can come to its end. -/
theorem exists_end {residual : Dialogue interface Conclusion} {crew : Crew}
    (keeps : residual.Keeps (contract plan) (Ended plan) crew) :
    ∃ conclusion after, Relation.ReflTransGen Step ⟨residual, crew⟩ ⟨.done conclusion, after⟩ := by
  induction residual generalizing crew with
  | done conclusion => exact ⟨conclusion, crew, .refl⟩
  | call request continuation ih =>
      obtain ⟨ready, waits, reply, after, reaction⟩ :=
        exists_reaction keeps.permits (.call request continuation)
      have made : Step ⟨.call request continuation, ready⟩ ⟨continuation reply, after⟩ :=
        .call request continuation rfl reply after reaction
      obtain ⟨conclusion, final, steps⟩ := ih reply (keeps_step (keeps_of_steps keeps waits) made)
      exact ⟨conclusion, final, waits.trans (.head made steps)⟩

/-- A conclusion is the one that processes make which were joined in an order. -/
structure Concludes (joined : List (String × Ending)) (conclusion : Conclusion) : Prop where
  success : conclusion = .returned (.ok ()) ↔ ∀ process ∈ joined, process.2 = .finished
  failure : ∀ earlier name incident later, joined = earlier ++ (name, .failed incident) :: later →
    (∀ process ∈ earlier, process.2 = .finished) →
      conclusion = .returned (.error (incident.context ("process '" ++ name ++ "' failed")))
  breakdown : ∀ earlier name task text later,
    joined = earlier ++ (name, .panicked task text) :: later →
      (∀ process ∈ earlier, process.2 = .finished) →
        conclusion = .returned (.error (.ofReport (.of (.panicked task text))))

theorem incident?_eq_none_iff {name : String} {ending : Ending} :
    ending.incident? name = none ↔ ending = .finished := by
  cases ending <;> simp [Ending.incident?]

theorem firstIncident_eq_none_iff {joined : List (String × Ending)} :
    firstIncident joined = none ↔ ∀ process ∈ joined, process.2 = .finished := by
  simp only [firstIncident, List.findSome?_eq_none_iff, incident?_eq_none_iff]

theorem firstIncident_append_cons {earlier later : List (String × Ending)}
    (finished : ∀ process ∈ earlier, process.2 = .finished) {name : String} {ending : Ending}
    {incident : Incident} (failed : ending.incident? name = some incident) :
    firstIncident (earlier ++ (name, ending) :: later) = some incident := by
  have none := firstIncident_eq_none_iff.mpr finished
  rw [firstIncident] at none
  rw [firstIncident, List.findSome?_append, none, Option.none_or, List.findSome?_cons, failed]

theorem concludes_outcomeOf (joined : List (String × Ending)) :
    Concludes joined (.returned (outcomeOf (firstIncident joined))) where
  success := by
    rw [← firstIncident_eq_none_iff]
    cases firstIncident joined <;> simp [outcomeOf]
  failure earlier name incident later same finished := by
    rw [same, firstIncident_append_cons finished rfl]
    rfl
  breakdown earlier name task text later same finished := by
    rw [same, firstIncident_append_cons finished rfl]
    rfl

/-- Supervision ends only when all processes have stopped, with the outcome that they make. -/
theorem supervision_outlasts_processes (reachable : Reachable plan scene) :
    (scene.crew.joined ≠ [] →
      scene.crew.cancelled = true ∨ ∃ next, scene.residual = .call .cancel next) ∧
    (scene.crew.closed ≠ [] → scene.crew.AllStopped plan) ∧
    (∀ next, scene.residual = .call .join next →
      scene.crew.running ≠ [] ∨ scene.crew.stopped ≠ []) ∧
    (∃ conclusion crew, Relation.ReflTransGen Step scene ⟨.done conclusion, crew⟩) ∧
    ∀ conclusion, scene.residual = .done conclusion →
      scene.crew.AllStopped plan ∧
      ((∀ call ∈ scene.crew.closed, call.2 = none) → Concludes scene.crew.joined conclusion) := by
  have keeps := keeps_of_steps (keeps_supervise plan) reachable
  obtain ⟨residual, crew⟩ := scene
  cases residual with
  | done conclusion =>
      have ended := keeps crew ((contract plan).drifts_refl crew)
      refine ⟨fun some => .inl (ended.cancelled some), fun _ => ended.stopped, nofun,
        ⟨conclusion, crew, .refl⟩, ?_⟩
      rintro _ ⟨⟩
      exact ⟨ended.stopped, fun returned => ended.outcome returned ▸ concludes_outcomeOf _⟩
  | call request continuation =>
      have permits : Permits plan request crew := keeps.permits
      refine ⟨fun some => ?_, fun some => permits.closers (.inl some), ?_, exists_end keeps, nofun⟩
      · obtain effective | rfl := permits.cancelled some
        · exact .inl effective
        · exact .inr ⟨continuation, rfl⟩
      · rintro next ⟨⟩
        exact permits.awaited rfl

end Scenes

section Example

/-- Two processes and a closer. -/
def pairPlan : Plan := ⟨["consumer", "ticker"], 1, 10⟩

def storeDown : Incident := .ofFailure (.store (.of (.stated "store unavailable")))

/-- The crew of the plan after both processes have stopped, the consumer being joined first. -/
def pairCrew : Crew where
  running := []
  stopped := []
  joined := [("consumer", .failed storeDown), ("ticker", .panicked "2" "boom")]
  cancelled := true
  closed := [(0, none)]

def pairConclusion : Conclusion :=
  .returned (.error (storeDown.context "process 'consumer' failed"))

theorem reachable_pairCrew : Reachable pairPlan ⟨.done pairConclusion, pairCrew⟩ := by
  apply Relation.ReflTransGen.head (.call (.start "consumer") _ rfl () _ rfl)
  apply Relation.ReflTransGen.head (.call (.start "ticker") _ rfl () _ rfl)
  apply Relation.ReflTransGen.head (.stop "ticker" (.panicked "2" "boom") [] ["consumer"] rfl)
  apply Relation.ReflTransGen.head .interrupt
  apply Relation.ReflTransGen.head (.stop "consumer" (.failed storeDown) [] [] rfl)
  apply Relation.ReflTransGen.head (.call .join _ rfl ("consumer", .failed storeDown) _
    ⟨[("ticker", .panicked "2" "boom")], [], rfl, rfl⟩)
  apply Relation.ReflTransGen.head (.call .cancel _ rfl () _ rfl)
  apply Relation.ReflTransGen.head
    (.call .join _ rfl ("ticker", .panicked "2" "boom") _ ⟨[], [], rfl, rfl⟩)
  apply Relation.ReflTransGen.head (.call .cancel _ rfl () _ rfl)
  apply Relation.ReflTransGen.head (.call (.close 0) _ rfl none _ rfl)
  exact .head (.call (.drain 10) _ rfl () _ rfl) .refl

/-- The consumer was joined first, so its failure is the outcome. -/
theorem consumer_failure_is_outcome :
    Reachable pairPlan ⟨.done pairConclusion, pairCrew⟩ ∧ pairCrew.AllStopped pairPlan ∧
    Concludes pairCrew.joined pairConclusion := by
  have closersReturned : ∀ call ∈ pairCrew.closed, call.2 = none := by simp [pairCrew]
  obtain ⟨-, -, -, -, ended⟩ := supervision_outlasts_processes reachable_pairCrew
  obtain ⟨stopped, concludes⟩ := ended pairConclusion rfl
  exact ⟨reachable_pairCrew, stopped, concludes closersReturned⟩

end Example

end Supervision
end Telemetry
