import Telemetry.Dialogue

/-!
# Contracts of dialogues

A dialogue with a shared state is one among many: between two of its calls others may change the
state.  A `Contract` says what they may do, which calls the dialogue may make in which state, and
what a call with its reply does.  `Keeps` says that a dialogue makes only permitted calls, whatever
the replies and whatever happens in between, and what holds when it ends.  It is a property of what
is left of a dialogue, so it can be carried along step by step, and a crash is no more than the end
of the steps.
-/

namespace Telemetry

/-- The terms under which a dialogue shares a state with others. -/
structure Contract (interface : Interface) (σ : Type) where
  /-- What others may do between two calls. -/
  drifts : σ → σ → Prop
  /-- Whether a call may be made. -/
  permits : interface.Call → σ → Prop
  /-- What a call does that gets a reply. -/
  reacts : (request : interface.Call) → interface.Reply request → σ → σ → Prop
  drifts_refl : ∀ state, drifts state state
  drifts_trans : ∀ {first second third}, drifts first second → drifts second third →
    drifts first third

namespace Dialogue

variable {interface : Interface} {σ α β : Type} {contract : Contract interface σ}

/-- The dialogue makes only permitted calls, and `post` holds of its result and state. -/
def Keeps (contract : Contract interface σ) (post : α → σ → Prop) :
    Dialogue interface α → σ → Prop
  | .done result, state => ∀ later, contract.drifts state later → post result later
  | .call request next, state => ∀ later, contract.drifts state later →
      contract.permits request later ∧
        ∀ reply after, contract.reacts request reply later after →
          Keeps contract post (next reply) after

namespace Keeps

variable {post mid : α → σ → Prop} {goal : β → σ → Prop} {dialogue : Dialogue interface α}
  {state later : σ}

theorem drift (keeps : Keeps contract post dialogue state) (drifts : contract.drifts state later) :
    Keeps contract post dialogue later := by
  cases dialogue with
  | done result =>
      intro further drifts'
      exact keeps further (contract.drifts_trans drifts drifts')
  | call request next =>
      intro further drifts'
      exact keeps further (contract.drifts_trans drifts drifts')

theorem permits {request : interface.Call} {next : interface.Reply request → Dialogue interface α}
    (keeps : Keeps contract post (.call request next) state) : contract.permits request state :=
  (keeps state (contract.drifts_refl state)).1

theorem step {request : interface.Call} {next : interface.Reply request → Dialogue interface α}
    {reply : interface.Reply request} (keeps : Keeps contract post (.call request next) state)
    (reacts : contract.reacts request reply state later) : Keeps contract post (next reply) later :=
  (keeps state (contract.drifts_refl state)).2 reply later reacts

theorem weaken (keeps : Keeps contract mid dialogue state)
    (implies : ∀ result after, mid result after → post result after) :
    Keeps contract post dialogue state := by
  induction dialogue generalizing state with
  | done result =>
      intro after drifts
      exact implies result after (keeps after drifts)
  | call request next ih =>
      intro after drifts
      refine ⟨(keeps after drifts).1, ?_⟩
      intro reply further reacts
      exact ih reply ((keeps after drifts).2 reply further reacts)

/-- The rule for going on with another dialogue. -/
theorem bind {next : α → Dialogue interface β} (first : Keeps contract mid dialogue state)
    (second : ∀ result after, mid result after → Keeps contract goal (next result) after) :
    Keeps contract goal (dialogue.bind next) state := by
  induction dialogue generalizing state with
  | done result => exact second result state (first state (contract.drifts_refl state))
  | call request continuation ih =>
      intro after drifts
      refine ⟨(first after drifts).1, ?_⟩
      intro reply further reacts
      exact ih reply ((first after drifts).2 reply further reacts)

/-- The rule for a loop, whose invariant is what a turn starts from. -/
theorem untilSome {turn : Dialogue interface (Option α)} (before : σ → Prop)
    (post : α → σ → Prop) (keeps : ∀ state, before state → Keeps contract
      (fun result after => ∀ drifted, contract.drifts after drifted →
        match result with
        | none => before drifted
        | some value => post value drifted) turn state)
    (turns : Nat) (start : ∀ drifted, contract.drifts state drifted → before drifted) :
    Keeps contract
      (fun result after => match result with
        | none => before after
        | some value => post value after) (turn.untilSome turns) state := by
  induction turns generalizing state with
  | zero => exact start
  | succ turns ih =>
      refine bind (keeps state (start state (contract.drifts_refl state))) ?_
      intro result after reached
      cases result with
      | none => exact ih reached
      | some value => exact reached

end Keeps

end Dialogue
end Telemetry
