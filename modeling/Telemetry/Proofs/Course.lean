import Telemetry.Dialogue

/-!
# Courses of dialogues

A course is one way a dialogue can go: the calls it makes, each with the reply it got, in their
order, and the result it ends with.  Every reply is possible, so what holds of all courses holds
whatever the collaborators do.
-/

namespace Telemetry

/-- A call and the reply it got. -/
structure Exchange (interface : Interface) where
  request : interface.Call
  reply : interface.Reply request

namespace Dialogue

variable {interface : Interface} {α β : Type}

/-- The dialogue can make the exchanges and end with the result. -/
inductive Course : Dialogue interface α → List (Exchange interface) → α → Prop
  | done (result : α) : Course (.done result) [] result
  | call {request : interface.Call} {next : interface.Reply request → Dialogue interface α}
      {reply : interface.Reply request} {exchanges : List (Exchange interface)} {result : α}
      (rest : Course (next reply) exchanges result) :
      Course (.call request next) (⟨request, reply⟩ :: exchanges) result

def exchanges {σ : Type} (collaborators : Collaborators interface σ) :
    Dialogue interface α → σ → List (Exchange interface)
  | .done _, _ => []
  | .call request next, state =>
      let (reply, state) := collaborators request state
      ⟨request, reply⟩ :: (next reply).exchanges collaborators state

/-- Whatever the collaborators are, a dialogue with them takes a course. -/
theorem course_run {σ : Type} (collaborators : Collaborators interface σ)
    (dialogue : Dialogue interface α) (state : σ) :
    Course dialogue (dialogue.exchanges collaborators state)
      (dialogue.run collaborators state).1 := by
  induction dialogue generalizing state with
  | done result => exact .done result
  | call request next ih => exact .call (ih _ _)

variable {exchanges : List (Exchange interface)}

theorem reply_of_mem_exchanges {σ : Type} {collaborators : Collaborators interface σ} {state : σ}
    (steady : ∀ request, (collaborators request state).2 = state) {dialogue : Dialogue interface α}
    {exchange : Exchange interface} (member : exchange ∈ dialogue.exchanges collaborators state) :
    exchange.reply = (collaborators exchange.request state).1 := by
  induction dialogue with
  | done result => cases member
  | call request next ih =>
      obtain rfl | member := List.mem_cons.mp member
      · rfl
      · exact ih _ (steady request ▸ member)

/-- Constant collaborators that reply as in a course make the dialogue take it. -/
theorem run_of_course {σ : Type} {collaborators : Collaborators interface σ} {state : σ}
    (steady : ∀ request, (collaborators request state).2 = state) {dialogue : Dialogue interface α}
    {result : α} (course : Course dialogue exchanges result)
    (replied : ∀ exchange ∈ exchanges,
      exchange.reply = (collaborators exchange.request state).1) :
    dialogue.run collaborators state = (result, state) := by
  induction course with
  | done result => rfl
  | @call request next reply exchanges result rest ih =>
      obtain ⟨first, others⟩ := List.forall_mem_cons.mp replied
      rw [run_call, steady request, ← first]
      exact ih others

theorem course_done_iff {value result : α} :
    Course (.done value : Dialogue interface α) exchanges result ↔
      exchanges = [] ∧ value = result := by
  constructor
  · rintro ⟨⟩
    exact ⟨rfl, rfl⟩
  · rintro ⟨rfl, rfl⟩
    exact .done value

theorem course_call_iff {request : interface.Call}
    {next : interface.Reply request → Dialogue interface α} {result : α} :
    Course (.call request next) exchanges result ↔
      ∃ reply rest, exchanges = ⟨request, reply⟩ :: rest ∧ Course (next reply) rest result := by
  constructor
  · rintro ⟨⟩
    exact ⟨_, _, rfl, ‹_›⟩
  · rintro ⟨reply, rest, rfl, course⟩
    exact .call course

theorem course_ask_iff {request : interface.Call} {result : interface.Reply request} :
    Course (.call request .done) exchanges result ↔ exchanges = [⟨request, result⟩] := by
  rw [course_call_iff]
  constructor
  · rintro ⟨reply, rest, rfl, course⟩
    obtain ⟨rfl, rfl⟩ := course_done_iff.mp course
    rfl
  · rintro rfl
    exact ⟨result, [], rfl, .done result⟩

/-- A course of a dialogue that goes on is one of each part. -/
theorem course_bind_iff {first : Dialogue interface α} {next : α → Dialogue interface β}
    {result : β} :
    Course (first.bind next) exchanges result ↔
      ∃ before value after, exchanges = before ++ after ∧ Course first before value ∧
        Course (next value) after result := by
  induction first generalizing exchanges with
  | done value =>
      simp only [done_bind, course_done_iff]
      constructor
      · intro course
        exact ⟨[], value, exchanges, rfl, ⟨rfl, rfl⟩, course⟩
      · rintro ⟨before, value, after, rfl, ⟨rfl, rfl⟩, course⟩
        exact course
  | call request continuation ih =>
      simp only [call_bind, course_call_iff, ih]
      constructor
      · rintro ⟨reply, rest, rfl, before, value, after, rfl, course, further⟩
        exact ⟨_, value, after, rfl, ⟨reply, before, rfl, course⟩, further⟩
      · rintro ⟨before, value, after, rfl, ⟨reply, rest, rfl, course⟩, further⟩
        exact ⟨reply, _, rfl, rest, value, after, rfl, course, further⟩

theorem course_attempt_iff {ε : Type} {first : Dialogue interface (Except ε α)}
    {next : Except ε α → Dialogue interface (Except ε β)} {outcome : Except ε β}
    (ends : ∀ failure, next (.error failure) = .done (.error failure)) :
    Course (first.bind next) exchanges outcome ↔
      (∃ failure, Course first exchanges (.error failure) ∧ outcome = .error failure) ∨
        ∃ before value after, exchanges = before ++ after ∧ Course first before (.ok value) ∧
          Course (next (.ok value)) after outcome := by
  rw [course_bind_iff]
  constructor
  · rintro ⟨before, attempted, after, rfl, course, further⟩
    cases attempted with
    | error failure =>
        rw [ends] at further
        obtain ⟨rfl, rfl⟩ := course_done_iff.mp further
        exact .inl ⟨failure, by rwa [List.append_nil], rfl⟩
    | ok value => exact .inr ⟨before, value, after, rfl, course, further⟩
  · rintro (⟨failure, course, rfl⟩ | ⟨before, value, after, rfl, course, further⟩)
    · refine ⟨exchanges, .error failure, [], (List.append_nil _).symm, course, ?_⟩
      rw [ends]
      exact .done _
    · exact ⟨before, .ok value, after, rfl, course, further⟩

theorem through_bind {other : Interface}
    (implement : (request : interface.Call) → Dialogue other (interface.Reply request))
    (first : Dialogue interface α) (next : α → Dialogue interface β) :
    (first.bind next).through implement =
      (first.through implement).bind fun result => (next result).through implement := by
  induction first with
  | done result => rfl
  | call request continuation ih =>
      simp only [call_bind, through, bind_assoc, ih]

/-- Calls that are carried out by single calls exchange the same. -/
theorem course_through_iff {other : Interface}
    {implement : (request : interface.Call) → Dialogue other (interface.Reply request)}
    {reword : Exchange interface → Exchange other}
    (one : ∀ request part reply,
      Course (implement request) part reply ↔ part = [reword ⟨request, reply⟩])
    {dialogue : Dialogue interface α} {outer : List (Exchange other)} {result : α} :
    Course (dialogue.through implement) outer result ↔
      ∃ inner, Course dialogue inner result ∧ outer = inner.map reword := by
  induction dialogue generalizing outer with
  | done value =>
      rw [through, course_done_iff]
      constructor
      · rintro ⟨rfl, rfl⟩
        exact ⟨[], .done value, rfl⟩
      · rintro ⟨inner, course, rfl⟩
        obtain ⟨rfl, rfl⟩ := course_done_iff.mp course
        exact ⟨rfl, rfl⟩
  | call request next ih =>
      rw [through, course_bind_iff]
      constructor
      · rintro ⟨part, reply, rest, rfl, carried, further⟩
        obtain ⟨inner, course, rfl⟩ := (ih reply).mp further
        exact ⟨⟨request, reply⟩ :: inner, .call course, by rw [(one _ _ _).mp carried]; rfl⟩
      · rintro ⟨inner, course, rfl⟩
        obtain ⟨reply, rest, rfl, further⟩ := course_call_iff.mp course
        exact ⟨[reword ⟨request, reply⟩], reply, rest.map reword, rfl, (one _ _ _).mpr rfl,
          (ih reply).mpr ⟨rest, further, rfl⟩⟩

theorem course_untilSome_succ_iff {turn : Dialogue interface (Option α)} {turns : Nat}
    {result : Option α} :
    Course (turn.untilSome (turns + 1)) exchanges result ↔
      (∃ value, result = some value ∧ Course turn exchanges (some value)) ∨
        ∃ before after, exchanges = before ++ after ∧ Course turn before none ∧
          Course (turn.untilSome turns) after result := by
  rw [untilSome, course_bind_iff]
  constructor
  · rintro ⟨before, value, after, rfl, course, further⟩
    cases value with
    | none => exact .inr ⟨before, after, rfl, course, further⟩
    | some value =>
        obtain ⟨rfl, rfl⟩ := course_done_iff.mp further
        exact .inl ⟨value, rfl, by rwa [List.append_nil]⟩
  · rintro (⟨value, rfl, course⟩ | ⟨before, after, rfl, course, further⟩)
    · exact ⟨exchanges, some value, [], (List.append_nil _).symm, course, .done _⟩
    · exact ⟨before, none, after, rfl, course, further⟩

/-- A repeated turn goes on up to one that has a result. -/
theorem course_untilSome_iff {turn : Dialogue interface (Option α)} {turns : Nat}
    {result : Option α} :
    Course (turn.untilSome turns) exchanges result ↔
      ∃ passed : List (List (Exchange interface)),
        (∀ part ∈ passed, Course turn part none) ∧
          ((passed.length = turns ∧ exchanges = passed.flatten ∧ result = none) ∨
            ∃ last value, passed.length < turns ∧ Course turn last (some value) ∧
              exchanges = passed.flatten ++ last ∧ result = some value) := by
  induction turns generalizing exchanges with
  | zero =>
      rw [untilSome, course_done_iff]
      constructor
      · rintro ⟨rfl, rfl⟩
        exact ⟨[], List.forall_mem_nil _, .inl ⟨rfl, rfl, rfl⟩⟩
      · rintro ⟨passed, -, ⟨none, rfl, rfl⟩ | ⟨last, value, impossible, -⟩⟩
        · rw [List.length_eq_zero_iff] at none
          exact ⟨by rw [none, List.flatten_nil], rfl⟩
        · exact absurd impossible (Nat.not_lt_zero _)
  | succ turns ih =>
      rw [course_untilSome_succ_iff]
      constructor
      · rintro (⟨value, rfl, course⟩ | ⟨before, after, rfl, course, further⟩)
        · exact ⟨[], List.forall_mem_nil _,
            .inr ⟨exchanges, value, Nat.succ_pos turns, course, rfl, rfl⟩⟩
        · obtain ⟨passed, each, ⟨count, rfl, same⟩ | ⟨last, value, count, ended, rfl, same⟩⟩ :=
            ih.mp further
          · exact ⟨before :: passed, List.forall_mem_cons.mpr ⟨course, each⟩,
              .inl ⟨congrArg Nat.succ count, List.flatten_cons.symm, same⟩⟩
          · refine ⟨before :: passed, List.forall_mem_cons.mpr ⟨course, each⟩,
              .inr ⟨last, value, Nat.succ_lt_succ count, ended, ?_, same⟩⟩
            rw [List.flatten_cons, List.append_assoc]
      · rintro ⟨passed, each, whole⟩
        cases passed with
        | nil =>
            obtain ⟨impossible, -⟩ | ⟨last, value, -, course, rfl, same⟩ := whole
            · cases impossible
            · exact .inl ⟨value, same, course⟩
        | cons before passed =>
            obtain ⟨course, each⟩ := List.forall_mem_cons.mp each
            refine .inr ⟨before, ?_⟩
            obtain ⟨count, rfl, same⟩ | ⟨last, value, count, ended, rfl, same⟩ := whole
            · exact ⟨passed.flatten, List.flatten_cons, course,
                ih.mpr ⟨passed, each, .inl ⟨Nat.succ.inj count, rfl, same⟩⟩⟩
            · refine ⟨passed.flatten ++ last, ?_, course, ih.mpr ⟨passed, each,
                .inr ⟨last, value, Nat.lt_of_succ_lt_succ count, ended, rfl, same⟩⟩⟩
              rw [List.flatten_cons, List.append_assoc]

end Dialogue
end Telemetry
