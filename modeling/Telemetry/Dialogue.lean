/-!
# Dialogues with collaborators

A service is a dialogue: it calls collaborators, goes on according to their replies, and ends with a
result.  Being plain data, a dialogue can be run against any collaborators, cut off between any two
calls, and reasoned about for every reply at once.
-/

namespace Telemetry

/-- The calls a service may make, and what is replied to each. -/
structure Interface where
  Call : Type
  Reply : Call → Type

/-- A computation that calls collaborators. -/
inductive Dialogue (interface : Interface) (α : Type) where
  /-- The end, with a result. -/
  | done (result : α)
  /-- A call, and how to go on after each reply. -/
  | call (request : interface.Call) (next : interface.Reply request → Dialogue interface α)

namespace Dialogue

variable {interface other : Interface} {α β : Type}

/-- Go on with another dialogue. -/
def bind : Dialogue interface α → (α → Dialogue interface β) → Dialogue interface β
  | .done result, next => next result
  | .call request continuation, next => .call request fun reply => (continuation reply).bind next

instance : Monad (Dialogue interface) where
  pure := .done
  bind := bind

/-- Make one call and return its reply. -/
def ask (request : interface.Call) : Dialogue interface (interface.Reply request) :=
  .call request .done

@[simp]
theorem pure_eq_done (result : α) : (pure result : Dialogue interface α) = .done result := rfl

@[simp]
theorem bind_eq (first : Dialogue interface α) (next : α → Dialogue interface β) :
    first >>= next = first.bind next := rfl

@[simp]
theorem done_bind (result : α) (next : α → Dialogue interface β) :
    (done result).bind next = next result := rfl

@[simp]
theorem call_bind (request : interface.Call)
    (continuation : interface.Reply request → Dialogue interface α)
    (next : α → Dialogue interface β) :
    (call request continuation).bind next =
      .call request fun reply => (continuation reply).bind next := rfl

@[simp]
theorem bind_done (first : Dialogue interface α) : first.bind .done = first := by
  induction first with
  | done result => rfl
  | call request continuation ih => simp [ih]

theorem bind_assoc {γ : Type} (first : Dialogue interface α) (second : α → Dialogue interface β)
    (third : β → Dialogue interface γ) :
    (first.bind second).bind third = first.bind fun result => (second result).bind third := by
  induction first with
  | done result => rfl
  | call request continuation ih => simp [ih]

/-- Collaborators with a state of their own: each call is answered and moves them on. -/
abbrev Collaborators (interface : Interface) (σ : Type) :=
  (request : interface.Call) → σ → interface.Reply request × σ

/-- Hold a dialogue with collaborators. -/
def run {σ : Type} (collaborators : Collaborators interface σ) :
    Dialogue interface α → σ → α × σ
  | .done result, state => (result, state)
  | .call request next, state =>
      let (reply, state) := collaborators request state
      (next reply).run collaborators state

@[simp]
theorem run_done {σ : Type} (collaborators : Collaborators interface σ) (result : α) (state : σ) :
    (done result).run collaborators state = (result, state) := rfl

@[simp]
theorem run_call {σ : Type} (collaborators : Collaborators interface σ)
    (request : interface.Call) (next : interface.Reply request → Dialogue interface α)
    (state : σ) :
    (call request next).run collaborators state =
      (next (collaborators request state).1).run collaborators (collaborators request state).2 :=
  rfl

theorem run_bind {σ : Type} (collaborators : Collaborators interface σ)
    (first : Dialogue interface α) (next : α → Dialogue interface β) (state : σ) :
    (first.bind next).run collaborators state =
      (next (first.run collaborators state).1).run collaborators
        (first.run collaborators state).2 := by
  induction first generalizing state with
  | done result => rfl
  | call request continuation ih => simp [ih]

/-- Carry out every call by a dialogue with other collaborators. -/
def through (implement : (request : interface.Call) → Dialogue other (interface.Reply request)) :
    Dialogue interface α → Dialogue other α
  | .done result => .done result
  | .call request next =>
      (implement request).bind fun reply => (next reply).through implement

/-- Repeat a turn until one has a result, at most the given number of times. -/
def untilSome (turn : Dialogue interface (Option α)) : Nat → Dialogue interface (Option α)
  | 0 => .done none
  | turns + 1 => turn.bind fun
      | some result => .done (some result)
      | none => untilSome turn turns

/-- Hold a dialogue for each element, in order. -/
def forEach {ι : Type} (elements : List ι) (body : ι → Dialogue interface α) :
    Dialogue interface (List α) :=
  match elements with
  | [] => .done []
  | element :: rest =>
      (body element).bind fun result =>
        (forEach rest body).bind fun results => .done (result :: results)

end Dialogue
end Telemetry
