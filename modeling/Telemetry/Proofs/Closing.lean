import Telemetry.Proofs.Supervision

/-!
# Closers and the outcome

What a closer does once it runs is its own affair: it returns, fails, breaks down or outlasts the
time limit, and neither the other closers nor the outcome feel it.  Before it runs it is not so well
apart.  Closers are called one after another by supervision itself, so one that breaks down when it
is called takes supervision with it, and a time limit of nothing is over before any closer needs to
have begun.  These two are all that can go wrong.
-/

namespace Telemetry
namespace Supervision

open Dialogue Relation

/-- What has become of the closers that have been called. -/
structure Cleanup where
  /-- The closers that are ready to begin. -/
  waiting : List Nat
  /-- The closers that have begun and have not ended. -/
  running : List Nat
  /-- The closers that have begun, in that order. -/
  begun : List Nat
  /-- The closers that have ended, and how. -/
  ended : List (Nat × Ending)

namespace Cleanup

def none : Cleanup := ⟨[], [], [], []⟩

/-- Closers that have not ended are let go. -/
def abandon (cleanup : Cleanup) : Cleanup :=
  { cleanup with waiting := [], running := [] }

/-- A closer has been called and is ready to begin, or it broke down and the others are let go. -/
def call (cleanup : Cleanup) (index : Nat) : Option String → Cleanup
  | .none => { cleanup with waiting := cleanup.waiting ++ [index] }
  | some _ => cleanup.abandon

end Cleanup

/-- What is assumed of the scheduler: a limit above zero runs out only once every closer has begun,
one of zero may run out at once. -/
structure Patient (expires : Nat → Cleanup → Prop) : Prop where
  waits : ∀ {limit cleanup}, limit ≠ 0 → expires limit cleanup → cleanup.waiting = []
  idle : ∀ {limit cleanup}, cleanup.waiting = [] → expires limit cleanup
  hasty : ∀ {cleanup}, expires 0 cleanup

/-- What a call of supervision does to the cleanup; a closer that breaks down when it is called has
words. -/
def handles (expires : Nat → Cleanup → Prop) (closers : List (Option String)) :
    (request : Call) → request.Reply → Cleanup → Cleanup → Prop
  | .start _, _, cleanup, after => after = cleanup
  | .join, _, cleanup, after => after = cleanup
  | .cancel, _, cleanup, after => after = cleanup
  | .close index, words, cleanup, after =>
      words = closers[index]?.join ∧ after = cleanup.call index words
  | .drain limit, _, cleanup, after =>
      expires limit cleanup ∧ after = cleanup.abandon

/-- Supervision with its crew and its closers. -/
structure Stage extends Scene where
  cleanup : Cleanup

/-- One step of supervision, of a process, of a closer or of someone who cancels. -/
inductive Turn (expires : Nat → Cleanup → Prop) (closers : List (Option String)) (stage : Stage) :
    Stage → Prop
  /-- Supervision makes its next call. -/
  | call (request : Call) (next : request.Reply → Dialogue interface Conclusion)
      (due : stage.residual = .call request next) (reply : request.Reply) (after : Crew)
      (reaction : reacts request reply stage.crew after) (tidied : Cleanup)
      (handling : handles expires closers request reply stage.cleanup tidied) :
      Turn expires closers stage ⟨⟨next reply, after⟩, tidied⟩
  /-- A process stops in some way. -/
  | stop (name : String) (ending : Ending) (earlier later : List String)
      (runs : stage.crew.running = earlier ++ name :: later) :
      Turn expires closers stage { stage with crew := { stage.crew with
        running := earlier ++ later
        stopped := stage.crew.stopped ++ [(name, ending)] } }
  /-- Someone cancels the processes. -/
  | interrupt :
      Turn expires closers stage { stage with crew := { stage.crew with cancelled := true } }
  /-- A closer begins. -/
  | begin (index : Nat) (earlier later : List Nat)
      (ready : stage.cleanup.waiting = earlier ++ index :: later) :
      Turn expires closers stage { stage with cleanup := { stage.cleanup with
        waiting := earlier ++ later
        running := stage.cleanup.running ++ [index]
        begun := stage.cleanup.begun ++ [index] } }
  /-- A closer ends in some way. -/
  | finish (index : Nat) (ending : Ending) (earlier later : List Nat)
      (runs : stage.cleanup.running = earlier ++ index :: later) :
      Turn expires closers stage { stage with cleanup := { stage.cleanup with
        running := earlier ++ later
        ended := stage.cleanup.ended ++ [(index, ending)] } }

/-- The stages that turns lead to from the beginning of supervision. -/
def Arises (expires : Nat → Cleanup → Prop) (processes : List String)
    (closers : List (Option String)) (limit : Nat) : Stage → Prop :=
  ReflTransGen (Turn expires closers)
    ⟨⟨supervise ⟨processes, closers.length, limit⟩, .none⟩, .none⟩

/-- How supervision can end, after its processes have been joined in some order. -/
def Ends (expires : Nat → Cleanup → Prop) (processes : List String)
    (closers : List (Option String)) (limit : Nat) (joined : List (String × Ending))
    (conclusion : Conclusion) (cleanup : Cleanup) : Prop :=
  ∃ crew : Crew, Arises expires processes closers limit ⟨⟨.done conclusion, crew⟩, cleanup⟩ ∧
    crew.joined = joined

/-- The words of the first closer that breaks down when it is called. -/
def breakdown? (closers : List (Option String)) : Option String :=
  closers.findSome? id

variable {expires : Nat → Cleanup → Prop} {processes : List String}
  {closers : List (Option String)} {limit : Nat} {stage next : Stage}
  {joined : List (String × Ending)} {conclusion : Conclusion}

theorem breakdown?_eq_none_iff : breakdown? closers = none ↔ ∀ closer ∈ closers, closer = none := by
  simp [breakdown?]

theorem findSome?_range_eq_breakdown? (closers : List (Option String)) :
    (List.range closers.length).findSome? (fun index => closers[index]?.join) =
      breakdown? closers := by
  have indexed : (List.range closers.length).map (fun index => closers[index]?.join) = closers := by
    refine List.ext_getElem (by simp) fun index _ within => ?_
    rw [List.getElem_map, List.getElem_range, List.getElem?_eq_getElem within, Option.join_some]
  conv_rhs => rw [← indexed, breakdown?, List.findSome?_map]
  rfl

section Upkeep

/-- What closers do by themselves: they begin, and they end. -/
structure Cleanup.Drifts (before after : Cleanup) : Prop where
  known : (after.waiting ++ after.begun).Perm (before.waiting ++ before.begun)
  begun : before.begun ⊆ after.begun

/-- The terms on which supervision and closers share the cleanup. -/
def upkeep (expires : Nat → Cleanup → Prop) (closers : List (Option String)) :
    Contract interface Cleanup where
  drifts := Cleanup.Drifts
  permits _ _ := True
  reacts := handles expires closers
  drifts_refl _ := ⟨.refl _, List.Subset.refl _⟩
  drifts_trans earlier later :=
    ⟨later.known.trans earlier.known, List.Subset.trans earlier.begun later.begun⟩

/-- These closers have been called, and each is ready to begin or has begun. -/
def Called (called : List Nat) (cleanup : Cleanup) : Prop :=
  (cleanup.waiting ++ cleanup.begun).Perm called

variable {called : List Nat} {cleanup after : Cleanup}

theorem Called.drift (state : Called called cleanup) (drifts : cleanup.Drifts after) :
    Called called after :=
  drifts.known.trans state

theorem Called.call (state : Called called cleanup) (index : Nat) :
    Called (called ++ [index]) (cleanup.call index none) := by
  have moved : (cleanup.waiting ++ [index] ++ cleanup.begun).Perm
      (cleanup.waiting ++ cleanup.begun ++ [index]) := by
    rw [List.append_assoc, List.append_assoc]
    exact List.perm_append_comm.append_left _
  exact moved.trans (state.append_right _)

theorem startAll_keeps_called (state : Called called cleanup) (rest : List String) :
    (startAll rest).Keeps (upkeep expires closers) (fun _ => Called called) cleanup := by
  induction rest generalizing cleanup with
  | nil => exact fun _ drifts => state.drift drifts
  | cons name rest ih =>
      refine fun later drifts => ⟨trivial, ?_⟩
      rintro _ _ rfl
      exact ih (state.drift drifts)

theorem joinAll_keeps_called (state : Called called cleanup) (waiting : Nat)
    (first : Option Incident) :
    (joinAll waiting first).Keeps (upkeep expires closers) (fun _ => Called called) cleanup := by
  induction waiting generalizing cleanup first with
  | zero => exact fun _ drifts => state.drift drifts
  | succ waiting ih =>
      refine fun later drifts => ⟨trivial, ?_⟩
      rintro process _ rfl further drifts'
      refine ⟨trivial, ?_⟩
      rintro _ _ rfl
      exact ih ((state.drift drifts).drift drifts') _

/-- Closers are called up to the first that breaks down. -/
theorem closeAll_keeps (state : Called called cleanup) (rest : List Nat) :
    (closeAll rest).Keeps (upkeep expires closers)
      (fun words after => words = rest.findSome? (fun index => closers[index]?.join) ∧
        (words = none → Called (called ++ rest) after)) cleanup := by
  induction rest generalizing called cleanup with
  | nil =>
      refine fun later drifts => ⟨rfl, fun _ => ?_⟩
      rw [List.append_nil]
      exact state.drift drifts
  | cons index rest ih =>
      refine fun later drifts => ⟨trivial, ?_⟩
      rintro words after ⟨spoken, rfl⟩
      rw [List.findSome?_cons, ← spoken]
      cases words with
      | some text => exact fun _ _ => ⟨rfl, nofun⟩
      | none =>
          rw [List.append_cons]
          exact ih ((state.drift drifts).call index)

theorem runClosers_keeps (patient : Patient expires) (state : Called [] cleanup) :
    (runClosers ⟨processes, closers.length, limit⟩).Keeps (upkeep expires closers)
      (fun words after => words = breakdown? closers ∧
        (limit ≠ 0 → words = none → ∀ index < closers.length, index ∈ after.begun)) cleanup := by
  rw [runClosers]
  split
  next lone =>
    obtain rfl := List.length_eq_zero_iff.mp lone
    exact fun _ _ => ⟨rfl, fun _ _ index within => absurd within (Nat.not_lt_zero index)⟩
  refine (closeAll_keeps state _).bind fun words after ended => ?_
  rw [findSome?_range_eq_breakdown?] at ended
  obtain ⟨found, all⟩ := ended
  cases words with
  | some text => exact fun _ _ => ⟨found, fun _ silent => absurd silent (Option.some_ne_none text)⟩
  | none =>
      refine fun later drifts => ⟨trivial, ?_⟩
      rintro _ _ ⟨expired, rfl⟩ further drifts'
      refine ⟨found, fun some _ index within => ?_⟩
      have known := (all rfl).drift drifts
      rw [Called, patient.waits some expired, List.nil_append, List.nil_append] at known
      exact drifts'.begun (known.mem_iff.mpr (List.mem_range.mpr within))

/-- What has become of supervision and its closers in the end. -/
structure Settled (closers : List (Option String)) (limit : Nat) (conclusion : Conclusion)
    (cleanup : Cleanup) : Prop where
  breakdown : ∀ text, breakdown? closers = some text → conclusion = .brokeDown text
  begun : limit ≠ 0 → breakdown? closers = none → ∀ index < closers.length, index ∈ cleanup.begun

theorem supervise_keeps_settled (patient : Patient expires) :
    (supervise ⟨processes, closers.length, limit⟩).Keeps (upkeep expires closers)
      (Settled closers limit) .none := by
  have untouched : Called [] .none := .refl _
  refine (startAll_keeps_called untouched _).bind fun _ started state => ?_
  refine (joinAll_keeps_called state _ _).bind fun first joined state => ?_
  refine (runClosers_keeps patient state).bind fun words closed ended => ?_
  obtain ⟨rfl, begun⟩ := ended
  cases broken : breakdown? closers with
  | some text =>
      refine fun later drifts => ⟨fun other same => ?_, fun _ silent => ?_⟩
      · rw [Option.some.inj (broken.symm.trans same)]
      · exact absurd (broken.symm.trans silent) nofun
  | none =>
      refine fun later drifts => ⟨fun other same => ?_, fun some silent index within => ?_⟩
      · exact absurd (broken.symm.trans same) nofun
      · exact drifts.begun (begun some silent index within)

theorem keeps_turn {post : Conclusion → Cleanup → Prop}
    (keeps : stage.residual.Keeps (upkeep expires closers) post stage.cleanup)
    (turn : Turn expires closers stage next) :
    next.residual.Keeps (upkeep expires closers) post next.cleanup := by
  cases turn with
  | call request continuation due reply after reaction tidied handling =>
      rw [due] at keeps
      exact keeps.step handling
  | stop name ending earlier later runs => exact keeps
  | interrupt => exact keeps
  | begin index earlier later ready =>
      refine keeps.drift ⟨?_, List.subset_append_left _ _⟩
      rw [ready, ← List.append_assoc]
      exact (List.perm_append_singleton _ _).trans (List.perm_middle.append_right _).symm
  | finish index ending earlier later runs => exact keeps.drift ⟨.refl _, List.Subset.refl _⟩

theorem settled_of_ends (patient : Patient expires) {cleanup : Cleanup}
    (ends : Ends expires processes closers limit joined conclusion cleanup) :
    Settled closers limit conclusion cleanup := by
  obtain ⟨crew, arises, -⟩ := ends
  suffices keeps : ∀ {stage}, Arises expires processes closers limit stage →
      stage.residual.Keeps (upkeep expires closers) (Settled closers limit) stage.cleanup from
    keeps arises cleanup ((upkeep expires closers).drifts_refl cleanup)
  intro stage arises
  induction arises with
  | refl => exact supervise_keeps_settled patient
  | tail _ turn ih => exact keeps_turn ih turn

end Upkeep

section Outcome

/-- A turn is at most one step of supervision and its crew. -/
theorem steps_of_turn (turn : Turn expires closers stage next) :
    ReflTransGen Step stage.toScene next.toScene := by
  cases turn with
  | call request continuation due reply after reaction tidied handling =>
      exact .single (.call request continuation due reply after reaction)
  | stop name ending earlier later runs => exact .single (.stop name ending earlier later runs)
  | interrupt => exact .single .interrupt
  | begin index earlier later ready => exact .refl
  | finish index ending earlier later runs => exact .refl

theorem steps_of_turns (turns : ReflTransGen (Turn expires closers) stage next) :
    ReflTransGen Step stage.toScene next.toScene :=
  turns.lift' Stage.toScene fun _ _ => steps_of_turn

theorem Arises.keeps (arises : Arises expires processes closers limit stage) :
    stage.residual.Keeps (contract ⟨processes, closers.length, limit⟩)
      (Ended ⟨processes, closers.length, limit⟩) stage.crew :=
  keeps_of_steps (keeps_supervise _) (steps_of_turns arises)

theorem ended_of_arises {crew : Crew} {cleanup : Cleanup}
    (arises : Arises expires processes closers limit ⟨⟨.done conclusion, crew⟩, cleanup⟩) :
    Ended ⟨processes, closers.length, limit⟩ conclusion crew :=
  arises.keeps crew ((contract _).drifts_refl crew)

theorem Arises.words (arises : Arises expires processes closers limit stage) :
    ∀ call ∈ stage.crew.closed, call.2 = closers[call.1]?.join := by
  induction arises with
  | refl => exact nofun
  | tail _ turn ih =>
      cases turn with
      | call request continuation due reply after reaction tidied handling =>
          cases request with
          | close index =>
              cases reaction
              rw [List.forall_mem_append, List.forall_mem_singleton]
              exact ⟨ih, handling.1⟩
          | join =>
              obtain ⟨earlier, later, -, rfl⟩ := reaction
              exact ih
          | start _ | cancel | drain _ =>
              cases reaction
              exact ih
      | stop | interrupt | begin | finish => exact ih

theorem outcome_of_ends {cleanup : Cleanup} (sound : ∀ closer ∈ closers, closer = none)
    (ends : Ends expires processes closers limit joined conclusion cleanup) :
    conclusion = .returned (outcomeOf (firstIncident joined)) := by
  obtain ⟨crew, arises, rfl⟩ := ends
  refine (ended_of_arises arises).outcome fun call member => ?_
  rw [arises.words call member]
  cases found : closers[call.1]? with
  | none => rfl
  | some closer => exact sound closer (List.mem_of_getElem? found)

theorem perm_of_ends {cleanup : Cleanup}
    (ends : Ends expires processes closers limit joined conclusion cleanup) :
    (joined.map Prod.fst).Perm processes := by
  obtain ⟨crew, arises, rfl⟩ := ends
  exact (ended_of_arises arises).stopped.joined

end Outcome

section Runs

theorem firstIncident_append_singleton (joined : List (String × Ending))
    (process : String × Ending) :
    firstIncident (joined ++ [process]) =
      (firstIncident joined).or (process.2.incident? process.1) := by
  rw [firstIncident, firstIncident, List.findSome?_append, List.findSome?_singleton]

theorem turns_startAll (rest : List String) (next : Unit → Dialogue interface Conclusion)
    (crew : Crew) (cleanup : Cleanup) :
    ReflTransGen (Turn expires closers) ⟨⟨(startAll rest).bind next, crew⟩, cleanup⟩
      ⟨⟨next (), { crew with running := rest.reverse ++ crew.running }⟩, cleanup⟩ := by
  induction rest generalizing crew with
  | nil => exact .refl
  | cons name rest ih =>
      refine .head (.call (.start name) _ rfl () _ rfl _ rfl) ?_
      rw [List.reverse_cons, List.append_assoc]
      exact ih { crew with running := name :: crew.running }

theorem turns_joinAll (closers : List (Option String)) (rest : List (String × Ending)) {crew : Crew}
    (cleanup : Cleanup) (stopped : crew.stopped = [])
    (all : (rest.map Prod.fst).Perm crew.running) :
    ∃ after : Crew, after.joined = crew.joined ++ rest ∧
      ∀ next : Option Incident → Dialogue interface Conclusion,
        ReflTransGen (Turn expires closers)
          ⟨⟨(joinAll rest.length (firstIncident crew.joined)).bind next, crew⟩, cleanup⟩
          ⟨⟨next (firstIncident after.joined), after⟩, cleanup⟩ := by
  induction rest generalizing crew with
  | nil => exact ⟨crew, (List.append_nil _).symm, fun _ => .refl⟩
  | cons process rest ih =>
      obtain ⟨running, _, joined, cancelled, closed⟩ := crew
      obtain rfl : _ = [] := stopped
      obtain ⟨earlier, later, rfl⟩ :=
        List.append_of_mem (all.subset (List.mem_cons_self : process.1 ∈ _))
      have others : (rest.map Prod.fst).Perm (earlier ++ later) :=
        (all.trans List.perm_middle).cons_inv
      let after : Crew := ⟨earlier ++ later, [], joined ++ [process], true, closed⟩
      obtain ⟨final, same, turns⟩ := ih (show after.stopped = [] from rfl) others
      rw [firstIncident_append_singleton] at turns
      refine ⟨final, by rw [same, List.append_assoc, List.singleton_append], fun next => ?_⟩
      refine .head (.stop process.1 process.2 earlier later rfl) ?_
      refine .head (.call .join _ rfl process _ ⟨[], [], rfl, rfl⟩ _ rfl) ?_
      exact .head (.call .cancel _ rfl () _ rfl _ rfl) (turns next)

theorem turns_closeAll (closers : List (Option String)) (rest : List Nat) (crew : Crew)
    (cleanup : Cleanup) :
    ∃ (called : Crew) (tidied : Cleanup), called.joined = crew.joined ∧
      tidied.begun = cleanup.begun ∧ ∀ next : Option String → Dialogue interface Conclusion,
        ReflTransGen (Turn expires closers) ⟨⟨(closeAll rest).bind next, crew⟩, cleanup⟩
          ⟨⟨next (rest.findSome? fun index => closers[index]?.join), called⟩, tidied⟩ := by
  induction rest generalizing crew cleanup with
  | nil => exact ⟨crew, cleanup, rfl, rfl, fun _ => .refl⟩
  | cons index rest ih =>
      rw [List.findSome?_cons]
      cases broken : closers[index]?.join with
      | some text =>
          refine ⟨{ crew with closed := crew.closed ++ [(index, some text)] }, cleanup.abandon, rfl,
            rfl, fun next => ?_⟩
          refine .head (.call (.close index) _ rfl (some text) _ rfl _ ⟨broken.symm, rfl⟩) ?_
          exact .refl
      | none =>
          obtain ⟨called, tidied, joined, begun, turns⟩ := ih
            { crew with closed := crew.closed ++ [(index, none)] } (cleanup.call index none)
          exact ⟨called, tidied, joined, begun, fun next =>
            .head (.call (.close index) _ rfl none _ rfl _ ⟨broken.symm, rfl⟩) (turns next)⟩

theorem turns_begin (closers : List (Option String)) (cleanup : Cleanup) :
    ∃ prepared : Cleanup, prepared.waiting = [] ∧
      ∀ scene, ReflTransGen (Turn expires closers) ⟨scene, cleanup⟩ ⟨scene, prepared⟩ := by
  obtain ⟨waiting, running, begun, ended⟩ := cleanup
  induction waiting generalizing running begun with
  | nil => exact ⟨_, rfl, fun _ => .refl⟩
  | cons index waiting ih =>
      obtain ⟨prepared, idle, turns⟩ := ih (running ++ [index]) (begun ++ [index])
      exact ⟨prepared, idle, fun scene => .head (.begin index [] waiting rfl) (turns scene)⟩

/-- Every closer that the time limit waits for may begin. -/
theorem turns_prepare (patient : Patient expires) (closers : List (Option String)) (limit : Nat)
    (cleanup : Cleanup) :
    ∃ prepared : Cleanup, expires limit prepared ∧ (limit = 0 → prepared = cleanup) ∧
      ∀ scene, ReflTransGen (Turn expires closers) ⟨scene, cleanup⟩ ⟨scene, prepared⟩ := by
  by_cases nothing : limit = 0
  · subst nothing
    exact ⟨cleanup, patient.hasty, fun _ => rfl, fun _ => .refl⟩
  · obtain ⟨prepared, idle, begins⟩ := turns_begin closers cleanup
    exact ⟨prepared, patient.idle idle, fun none => absurd none nothing, begins⟩

theorem turns_runClosers (patient : Patient expires) (processes : List String)
    (closers : List (Option String)) (limit : Nat) (crew : Crew) (cleanup : Cleanup) :
    ∃ (closed : Crew) (tidied : Cleanup), closed.joined = crew.joined ∧
      (limit = 0 ∨ breakdown? closers ≠ none → tidied.begun = cleanup.begun) ∧
      ∀ next : Option String → Dialogue interface Conclusion,
        ReflTransGen (Turn expires closers)
          ⟨⟨(runClosers ⟨processes, closers.length, limit⟩).bind next, crew⟩, cleanup⟩
          ⟨⟨next (breakdown? closers), closed⟩, tidied⟩ := by
  rw [runClosers]
  split
  next lone =>
    obtain rfl := List.length_eq_zero_iff.mp lone
    exact ⟨crew, cleanup, rfl, fun _ => rfl, fun _ => .refl⟩
  obtain ⟨called, tidied, joined, begun, calls⟩ :=
    turns_closeAll closers (List.range closers.length) crew cleanup
  rw [findSome?_range_eq_breakdown?] at calls
  simp only [bind_assoc]
  cases broken : breakdown? closers with
  | some text =>
      refine ⟨called, tidied, joined, fun _ => begun, fun next => (calls _).trans ?_⟩
      rw [broken]
      exact .refl
  | none =>
      obtain ⟨prepared, expired, early, begins⟩ := turns_prepare patient closers limit tidied
      refine ⟨called, prepared.abandon, joined, fun early' => ?_, fun next => (calls _).trans ?_⟩
      · have nothing := early'.resolve_right fun some => some rfl
        exact (congrArg Cleanup.begun (early nothing)).trans begun
      · rw [broken]
        exact (begins _).trans (.head (.call (.drain limit) _ rfl () _ rfl _ ⟨expired, rfl⟩) .refl)

/-- However the processes end, supervision can come to its end. -/
theorem exists_ends (patient : Patient expires) (closers : List (Option String)) (limit : Nat)
    (all : (joined.map Prod.fst).Perm processes) :
    ∃ conclusion cleanup, Ends expires processes closers limit joined conclusion cleanup ∧
      (limit = 0 ∨ breakdown? closers ≠ none → cleanup.begun = []) := by
  have awaited : (joined.map Prod.fst).Perm (processes.reverse ++ []) := by
    rw [List.append_nil]
    exact all.trans (List.reverse_perm processes).symm
  have count : joined.length = processes.length := by
    rw [← all.length_eq, List.length_map]
  let started : Crew := { Crew.none with running := processes.reverse ++ [] }
  obtain ⟨stopped, same, joins⟩ :=
    turns_joinAll closers joined .none (show started.stopped = [] from rfl) awaited
  obtain ⟨closed, tidied, kept, early, closes⟩ :=
    turns_runClosers patient processes closers limit stopped .none
  rw [count] at joins
  cases broken : breakdown? closers with
  | some text =>
      rw [broken] at closes early
      refine ⟨.brokeDown text, tidied, ⟨closed, ?_, kept.trans same⟩, early⟩
      exact (turns_startAll processes _ .none .none).trans ((joins _).trans (closes _))
  | none =>
      rw [broken] at closes early
      refine ⟨.returned (outcomeOf (firstIncident stopped.joined)), tidied,
        ⟨closed, ?_, kept.trans same⟩, early⟩
      exact (turns_startAll processes _ .none .none).trans ((joins _).trans (closes _))

theorem exists_handling (patient : Patient expires) {plan : Plan} {request : Call} {crew : Crew}
    (permits : Permits plan request crew) (closers : List (Option String))
    (residual : Dialogue interface Conclusion) (cleanup : Cleanup) :
    ∃ (ready : Crew) (prepared : Cleanup),
      ReflTransGen (Turn expires closers) ⟨⟨residual, crew⟩, cleanup⟩
        ⟨⟨residual, ready⟩, prepared⟩ ∧
      ∃ reply after tidied, reacts request reply ready after ∧
        handles expires closers request reply prepared tidied := by
  cases request with
  | start name => exact ⟨crew, cleanup, .refl, (), _, _, rfl, rfl⟩
  | cancel => exact ⟨crew, cleanup, .refl, (), _, _, rfl, rfl⟩
  | close index => exact ⟨crew, cleanup, .refl, closers[index]?.join, _, _, rfl, rfl, rfl⟩
  | drain limit =>
      obtain ⟨prepared, expired, -, begins⟩ := turns_prepare patient closers limit cleanup
      exact ⟨crew, prepared, begins _, (), _, _, rfl, expired, rfl⟩
  | join =>
      obtain ⟨running, stopped, joined, cancelled, closed⟩ := crew
      cases stopped with
      | cons process rest => exact ⟨_, cleanup, .refl, process, _, _, ⟨[], rest, rfl, rfl⟩, rfl⟩
      | nil =>
          cases running with
          | nil => exact absurd (permits.awaited rfl) (by simp)
          | cons name rest =>
              exact ⟨_, cleanup, .single (.stop name .finished [] rest rfl), (name, .finished), _,
                _, ⟨[], [], rfl, rfl⟩, rfl⟩

/-- Supervision can come to its end from wherever it stands. -/
theorem exists_conclusion (patient : Patient expires) {plan : Plan}
    {residual : Dialogue interface Conclusion} {crew : Crew}
    (keeps : residual.Keeps (contract plan) (Ended plan) crew) (cleanup : Cleanup) :
    ∃ conclusion after tidied, ReflTransGen (Turn expires closers) ⟨⟨residual, crew⟩, cleanup⟩
      ⟨⟨.done conclusion, after⟩, tidied⟩ := by
  induction residual generalizing crew cleanup with
  | done conclusion => exact ⟨conclusion, crew, cleanup, .refl⟩
  | call request continuation ih =>
      obtain ⟨ready, prepared, waits, reply, after, tidied, reaction, handling⟩ :=
        exists_handling patient keeps.permits closers (.call request continuation) cleanup
      have made : Turn expires closers ⟨⟨.call request continuation, ready⟩, prepared⟩
          ⟨⟨continuation reply, after⟩, tidied⟩ :=
        .call request continuation rfl reply after reaction tidied handling
      have kept := keeps_of_steps keeps (steps_of_turns (waits.tail made))
      obtain ⟨conclusion, final, settled, turns⟩ := ih reply kept tidied
      exact ⟨conclusion, final, settled, waits.trans (.head made turns)⟩

end Runs

/-- Closers leave the result alone exactly when none breaks down when it is called. -/
theorem closers_contained_iff (patient : Patient expires) {result : Conclusion} {idle : Cleanup}
    (alone : Ends expires processes [] limit joined result idle) (closers : List (Option String)) :
    ((∀ conclusion cleanup, Ends expires processes closers limit joined conclusion cleanup →
        conclusion = result) ↔
      ∀ closer ∈ closers, closer = none) ∧
    ((∀ conclusion cleanup, Ends expires processes closers limit joined conclusion cleanup →
        ∀ index < closers.length, index ∈ cleanup.begun) ↔
      closers = [] ∨ limit ≠ 0 ∧ ∀ closer ∈ closers, closer = none) ∧
    (∃ conclusion cleanup, Ends expires processes closers limit joined conclusion cleanup) ∧
    (∀ stage, Arises expires processes closers limit stage → ∃ conclusion after cleanup,
      ReflTransGen (Turn expires closers) stage ⟨⟨.done conclusion, after⟩, cleanup⟩) ∧
    ∀ other conclusion cleanup, Ends expires processes closers limit other conclusion cleanup →
      ∃ result idle, Ends expires processes [] limit other result idle := by
  obtain ⟨conclusion, cleanup, ends, early⟩ :=
    exists_ends patient closers limit (perm_of_ends alone)
  have expected : result = .returned (outcomeOf (firstIncident joined)) :=
    outcome_of_ends (List.forall_mem_nil _) alone
  refine ⟨⟨fun same => ?_, fun sound other cleanup ends => ?_⟩, ⟨fun begun => ?_, ?_⟩,
    ⟨conclusion, cleanup, ends⟩, fun stage arises => exists_conclusion patient arises.keeps _,
    fun other conclusion cleanup ends => ?_⟩
  · rw [← breakdown?_eq_none_iff]
    cases broken : breakdown? closers with
    | none => rfl
    | some text =>
        have lost := (settled_of_ends patient ends).breakdown text broken
        rw [same conclusion cleanup ends, expected] at lost
        cases lost
  · rw [outcome_of_ends sound ends, expected]
  · rw [← breakdown?_eq_none_iff]
    by_contra lacking
    rw [not_or, not_and_or, not_not] at lacking
    have first := begun conclusion cleanup ends 0 (List.length_pos_iff.mpr lacking.1)
    rw [early lacking.2] at first
    cases first
  · rintro (rfl | ⟨some, sound⟩) other cleanup ends index within
    · cases within
    · have settled := settled_of_ends patient ends
      exact settled.begun some (breakdown?_eq_none_iff.mpr sound) index within
  · obtain ⟨result, idle, ends', -⟩ := exists_ends patient [] limit (perm_of_ends ends)
    exact ⟨result, idle, ends'⟩

section Example

/-- A time limit of nothing is over at once, and any other once no closer is left to begin. -/
def dueOnceBegun (limit : Nat) (cleanup : Cleanup) : Prop :=
  limit = 0 ∨ cleanup.waiting = []

theorem patient_dueOnceBegun : Patient dueOnceBegun where
  waits some expired := expired.resolve_left some
  idle begun := .inr begun
  hasty := .inl rfl

def consumerFailure : List (String × Ending) :=
  [("consumer", .failed storeDown)]

def consumerConclusion : Conclusion :=
  .returned (.error (storeDown.context "process 'consumer' failed"))

theorem consumerFailure_perm : (consumerFailure.map Prod.fst).Perm ["consumer"] := .refl _

theorem exists_ends_consumerFailure {closers : List (Option String)}
    (sound : ∀ closer ∈ closers, closer = none) (limit : Nat) :
    ∃ cleanup,
      Ends dueOnceBegun ["consumer"] closers limit consumerFailure consumerConclusion cleanup ∧
      (limit = 0 → cleanup.begun = []) := by
  obtain ⟨conclusion, cleanup, ends, early⟩ :=
    exists_ends patient_dueOnceBegun closers limit consumerFailure_perm
  rw [outcome_of_ends sound ends] at ends
  exact ⟨cleanup, ends, early ∘ .inl⟩

/-- Two closers begin and do not hide the failure of the consumer. -/
theorem consumer_failure_outlives_closers :
    (∃ idle, Ends dueOnceBegun ["consumer"] [] 10 consumerFailure consumerConclusion idle) ∧
      (∃ conclusion cleanup,
        Ends dueOnceBegun ["consumer"] [none, none] 10 consumerFailure conclusion cleanup) ∧
      ∀ conclusion cleanup,
        Ends dueOnceBegun ["consumer"] [none, none] 10 consumerFailure conclusion cleanup →
          conclusion = consumerConclusion ∧ ∀ index < 2, index ∈ cleanup.begun := by
  have sound : ∀ closer ∈ [none, none], closer = (none : Option String) := by simp
  obtain ⟨idle, alone, -⟩ := exists_ends_consumerFailure (List.forall_mem_nil _) 10
  obtain ⟨outcome, begun, ends, -, -⟩ :=
    closers_contained_iff patient_dueOnceBegun alone [none, none]
  exact ⟨⟨idle, alone⟩, ends, fun conclusion cleanup ended =>
    ⟨outcome.mpr sound conclusion cleanup ended,
      begun.mpr (.inr ⟨by decide, sound⟩) conclusion cleanup ended⟩⟩

/-- A closer that breaks down when it is called hides the failure of the consumer. -/
theorem consumer_failure_hidden :
    (∃ idle, Ends dueOnceBegun ["consumer"] [] 10 consumerFailure consumerConclusion idle) ∧
      (∃ cleanup, Ends dueOnceBegun ["consumer"] [some "not connected", none] 10 consumerFailure
        (.brokeDown "not connected") cleanup ∧ cleanup.begun = []) ∧
      ∃ cleanup,
        Ends dueOnceBegun ["consumer"] [none, none] 0 consumerFailure consumerConclusion cleanup ∧
          cleanup.begun = [] := by
  obtain ⟨idle, alone, -⟩ := exists_ends_consumerFailure (List.forall_mem_nil _) 10
  have sound : ∀ closer ∈ [none, none], closer = (none : Option String) := by simp
  obtain ⟨hasty, hurried, early⟩ := exists_ends_consumerFailure sound 0
  obtain ⟨conclusion, cleanup, ends, idle'⟩ :=
    exists_ends patient_dueOnceBegun [some "not connected", none] 10 consumerFailure_perm
  have broken : breakdown? [some "not connected", none] = some "not connected" := rfl
  rw [(settled_of_ends patient_dueOnceBegun ends).breakdown _ broken] at ends
  exact ⟨⟨idle, alone⟩, ⟨cleanup, ends, idle' (.inr (by simp [broken]))⟩, hasty, hurried, early rfl⟩

end Example

end Supervision
end Telemetry
