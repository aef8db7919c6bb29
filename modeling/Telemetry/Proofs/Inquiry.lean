import Telemetry.Inquiry
import Telemetry.Proofs.Course

/-!
# Courses of inquiries

A histogram query sends one statement at most, and a request is answered only with windows that its
query fills from rows of the store.
-/

namespace Telemetry

open Dialogue Histogram

namespace Store

variable {access : Access} {table : String} {query : Query}
  {exchanges : List (Exchange interface)} {outcome : Except Failure (List Window)}

/-- What a histogram query makes of the reply to its statement. -/
def windowsOf (query : Query) : Except Fault (List Histogram.Row) → Except Failure (List Window)
  | .error fault => .error fault.toFailure
  | .ok rows => query.fill rows

/-- A histogram query has no statement, cannot send it, or sends it once. -/
theorem course_windows_cases (course : Course (windows access table query) exchanges outcome) :
    (∃ failure, query.statement table = .error failure ∧ exchanges = [] ∧
        outcome = .error failure) ∨
      ∃ statement, query.statement table = .ok statement ∧
        ((∃ fault, selection access statement = .error fault ∧ exchanges = [] ∧
            outcome = .error fault.toFailure) ∨
          ∃ text reply, selection access statement = .ok text ∧
            exchanges = [⟨.select text, reply⟩] ∧ outcome = windowsOf query reply) := by
  rw [windows] at course
  cases built : query.statement table with
  | error failure =>
      rw [built] at course
      obtain ⟨rfl, rfl⟩ := course_done_iff.mp course
      exact .inl ⟨failure, rfl, rfl, rfl⟩
  | ok statement =>
      rw [built] at course
      refine .inr ⟨statement, rfl, ?_⟩
      dsimp only at course
      cases selected : selection access statement with
      | error fault =>
          rw [selected] at course
          obtain ⟨rfl, rfl⟩ := course_done_iff.mp course
          exact .inl ⟨fault, rfl, rfl, rfl⟩
      | ok text =>
          rw [selected] at course
          obtain ⟨reply, rest, rfl, replied⟩ := course_call_iff.mp course
          match reply with
          | .error fault =>
              obtain ⟨rfl, rfl⟩ := course_done_iff.mp replied
              exact .inr ⟨text, .error fault, rfl, rfl, rfl⟩
          | .ok rows =>
              obtain ⟨rfl, rfl⟩ := course_done_iff.mp replied
              exact .inr ⟨text, .ok rows, rfl, rfl, rfl⟩

theorem course_windows_of_reply {statement : Statement} {text : String}
    (built : query.statement table = .ok statement)
    (selected : selection access statement = .ok text)
    (reply : Except Fault (List Histogram.Row)) :
    Course (windows access table query) [⟨.select text, reply⟩] (windowsOf query reply) := by
  rw [windows, built]
  dsimp only
  rw [selected]
  refine .call ?_
  cases reply with
  | error fault => exact .done _
  | ok rows => exact .done _

end Store

namespace Inquiry

variable {access : Store.Access} {table : String} {request : Request}
  {exchanges : List (Exchange interface)} {outcome : Except Failure Answer}

def storing (exchange : Exchange Store.interface) : Exchange interface :=
  ⟨.store exchange.request, exchange.reply⟩

/-- How the devices of a query are counted: by the registry if none is named. -/
def Counts (query : Query) (counting : List (Exchange interface)) (counted : Except Failure Nat) :
    Prop :=
  if query.devices = [] then
    counting = [⟨.deviceCount query.organization, counted⟩]
  else
    counting = [] ∧ counted = .ok (min query.devices.length deviceCountLimit)

theorem Counts.store_not_mem {query : Query} {counting : List (Exchange interface)}
    {counted : Except Failure Nat} (counts : Counts query counting counted) {call : Store.Call}
    {reply : call.Reply} : ⟨.store call, reply⟩ ∉ counting := by
  intro member
  rw [Counts] at counts
  split at counts
  · rw [counts] at member
    cases List.mem_singleton.mp member
  · rw [counts.1] at member
    cases member

theorem exists_counts (query : Query) :
    ∃ counting devices, Counts query counting (.ok devices) := by
  by_cases none : query.devices = []
  · refine ⟨[⟨.deviceCount query.organization, .ok 1⟩], 1, ?_⟩
    rw [Counts, if_pos none]
  · refine ⟨[], min query.devices.length deviceCountLimit, ?_⟩
    rw [Counts, if_neg none]
    exact ⟨rfl, rfl⟩

theorem course_deviceCount_iff {query : Query} {counted : Except Failure Nat} :
    Course (query.deviceCount.through (reading access table)) exchanges counted ↔
      Counts query exchanges counted := by
  rw [Counts, Query.deviceCount]
  by_cases none : query.devices = []
  · rw [if_pos none, if_pos (List.isEmpty_iff.mpr none)]
    exact course_ask_iff
  · rw [if_neg none, if_neg (by simpa using none)]
    exact course_done_iff.trans (and_congr_right fun _ => eq_comm)

theorem course_reading_iff {query : Query} {windowed : Except Failure (List Window)} :
    Course (reading access table (.windows query)) exchanges windowed ↔
      ∃ selecting, Course (Store.windows access table query) selecting windowed ∧
        exchanges = selecting.map storing :=
  course_through_iff fun _ _ _ => course_ask_iff

/-- An inquiry is refused, or counts devices and then reads windows. -/
theorem course_answer_iff :
    Course (Inquiry.answer access table request) exchanges outcome ↔
      (∃ failure, request.normalize = .error failure ∧ exchanges = [] ∧ outcome = .error failure) ∨
        ∃ query counting counted, request.normalize = .ok query ∧ Counts query counting counted ∧
          ((∃ failure, counted = .error failure ∧ exchanges = counting ∧
              outcome = .error failure) ∨
            ∃ devices selecting windowed, counted = .ok devices ∧
              Course (Store.windows access table query) selecting windowed ∧
              exchanges = counting ++ selecting.map storing ∧
              outcome = windowed.map (query.answer devices)) := by
  rw [Inquiry.answer, Request.answer]
  cases normal : request.normalize with
  | error failure =>
      rw [through, course_done_iff]
      constructor
      · rintro ⟨rfl, rfl⟩
        exact .inl ⟨failure, rfl, rfl, rfl⟩
      · rintro (⟨_, ⟨⟩, rfl, rfl⟩ | ⟨query, _, _, impossible, _⟩)
        · exact ⟨rfl, rfl⟩
        · cases impossible
  | ok query =>
      dsimp only
      rw [bind_eq, through_bind]
      refine (course_attempt_iff (by exact fun _ => rfl)).trans ?_
      simp only [course_deviceCount_iff]
      constructor
      · rintro (⟨failure, counts, rfl⟩ | ⟨counting, devices, rest, rfl, counts, asked⟩)
        · exact .inr ⟨query, exchanges, _, rfl, counts, .inl ⟨failure, rfl, rfl, rfl⟩⟩
        · obtain ⟨reading, windowed, last, rfl, read, ended⟩ := course_bind_iff.mp asked
          obtain ⟨selecting, course, rfl⟩ := course_reading_iff.mp read
          refine .inr ⟨query, counting, _, rfl, counts, .inr ⟨devices, selecting, windowed, rfl,
            course, ?_⟩⟩
          cases windowed with
          | error failure =>
              obtain ⟨rfl, rfl⟩ := course_done_iff.mp ended
              exact ⟨by rw [List.append_nil], rfl⟩
          | ok windows =>
              obtain ⟨rfl, rfl⟩ := course_done_iff.mp ended
              exact ⟨by rw [List.append_nil], rfl⟩
      · rintro (⟨_, impossible, _⟩ | ⟨_, counting, counted, ⟨⟩, counts, ended⟩)
        · cases impossible
        · obtain ⟨failure, rfl, rfl, rfl⟩ |
            ⟨devices, selecting, windowed, rfl, course, rfl, rfl⟩ := ended
          · exact .inl ⟨failure, counts, rfl⟩
          · refine .inr ⟨counting, devices, _, rfl, counts, course_bind_iff.mpr ⟨_, windowed, [],
              (List.append_nil _).symm, course_reading_iff.mpr ⟨selecting, course, rfl⟩, ?_⟩⟩
            cases windowed with
            | error failure => exact .done _
            | ok windows => exact .done _

theorem course_of_reply {query : Query} {statement : Statement} {text : String}
    (accepted : request.normalize = .ok query) (built : query.statement table = .ok statement)
    (selected : Store.selection access statement = .ok text)
    {counting : List (Exchange interface)} {devices : Nat}
    (counts : Counts query counting (.ok devices)) (reply : Except Store.Fault (List Row)) :
    Course (Inquiry.answer access table request) (counting ++ [⟨.store (.select text), reply⟩])
      ((Store.windowsOf query reply).map (query.answer devices)) :=
  course_answer_iff.mpr (.inr ⟨query, counting, _, accepted, counts, .inr ⟨devices, _, _, rfl,
    Store.course_windows_of_reply built selected reply, rfl, rfl⟩⟩)

/-- A request has the windows that its query fills from the rows of the reply. -/
theorem outcome_of_reply {query : Query} {text : String}
    {rows : List Histogram.Row} (accepted : request.normalize = .ok query)
    (course : Course (Inquiry.answer access table request) exchanges outcome)
    (replied : ⟨.store (.select text), .ok rows⟩ ∈ exchanges) :
    ∃ statement devices, query.statement table = .ok statement ∧
      outcome = (query.fill rows).map (query.answer devices) := by
  obtain ⟨_, -, rfl, -⟩ | ⟨other, counting, counted, normal, counts, ended⟩ :=
    course_answer_iff.mp course
  · cases replied
  obtain rfl : other = query := by cases normal.symm.trans accepted; rfl
  obtain ⟨_, -, rfl, -⟩ | ⟨devices, selecting, windowed, -, read, rfl, rfl⟩ := ended
  · exact absurd replied counts.store_not_mem
  obtain replied | replied := List.mem_append.mp replied
  · exact absurd replied counts.store_not_mem
  obtain ⟨_, -, rfl, -⟩ | ⟨statement, built, ⟨_, -, rfl, -⟩ | ⟨other, reply, -, rfl, rfl⟩⟩ :=
    Store.course_windows_cases read
  · cases replied
  · cases replied
  · cases List.mem_singleton.mp replied
    exact ⟨statement, devices, built, rfl⟩

theorem exists_reply_of_answer {answer : Answer}
    (course : Course (Inquiry.answer access table request) exchanges (.ok answer)) :
    ∃ query statement text rows devices windows, request.normalize = .ok query ∧
      query.statement table = .ok statement ∧ ⟨.store (.select text), .ok rows⟩ ∈ exchanges ∧
      query.fill rows = .ok windows ∧ answer = query.answer devices windows := by
  obtain ⟨_, _, _, impossible⟩ | ⟨query, counting, counted, normal, -, ended⟩ :=
    course_answer_iff.mp course
  · cases impossible
  obtain ⟨_, _, _, impossible⟩ | ⟨devices, selecting, windowed, -, read, rfl, made⟩ := ended
  · cases impossible
  cases windowed with
  | error failure => cases made
  | ok windows =>
      cases made
      obtain ⟨_, _, _, impossible⟩ |
        ⟨statement, built, ⟨_, _, _, impossible⟩ | ⟨text, reply, -, rfl, same⟩⟩ :=
          Store.course_windows_cases read
      · cases impossible
      · cases impossible
      · cases reply with
        | error fault => cases same
        | ok rows =>
            exact ⟨query, statement, text, rows, devices, windows, normal, built,
              List.mem_append_right _ (List.mem_singleton_self _), same.symm, rfl⟩

theorem exists_fill_of_answer {answer : Answer}
    (course : Course (Inquiry.answer access table request) exchanges (.ok answer)) :
    ∃ query rows, request.normalize = .ok query ∧ query.fill rows = .ok answer.windows := by
  obtain ⟨query, _, _, rows, _, _, normal, -, -, filled, rfl⟩ := exists_reply_of_answer course
  exact ⟨query, rows, normal, filled⟩

end Inquiry
end Telemetry
