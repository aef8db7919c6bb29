import Mathlib.Data.List.Perm.Basic
import Telemetry.Proofs.Histogram.Closed

/-!
# Isolation of organizations

The rows of all organizations stand in one table and their devices in one registry.  An inquiry asks
the registry about its own organization alone, and whatever the path, the devices and the thresholds
are, its statement selects rows of that organization alone.  So its outcome depends on nothing that
belongs to another organization.
-/

namespace Telemetry

open Dialogue Histogram

namespace Store

variable {query : Query} {table : String} {statement : Statement}

/-- A statement means the same on the rows of its organization alone. -/
theorem evaluate_filter_organization (built : query.statement table = .ok statement)
    (rows : List Row) :
    evaluate statement (rows.filter fun row => row.organization = query.organization) =
      evaluate statement rows := by
  rw [evaluate_eq built, evaluate_eq built, List.filterMap_filter]
  congr 1
  refine List.filterMap_congr fun row _ => ?_
  by_cases own : row.organization = query.organization
  · rw [if_pos (decide_eq_true own)]
  · have outside : ¬InScope query row := fun inside => own inside.1
    rw [if_neg (by simpa using own), observationOf?, if_neg outside]

end Store

namespace Inquiry

variable {access : Store.Access} {table : String} {request : Request}
  {exchanges : List (Exchange interface)} {outcome : Except Failure Answer}

/-- What the collaborators of inquiries know of all organizations. -/
structure Holdings where
  rows : List Store.Row
  /-- The registered devices, each with the organization that owns it. -/
  devices : List (String × String)

namespace Holdings

def rowsOf (holdings : Holdings) (organization : String) : List Store.Row :=
  holdings.rows.filter fun row => row.organization = organization

def devicesOf (holdings : Holdings) (organization : String) : List (String × String) :=
  holdings.devices.filter fun device => device.2 = organization

/-- Holdings in which an organization has the same rows and the same devices. -/
structure Agree (organization : String) (first second : Holdings) : Prop where
  rows : first.rowsOf organization = second.rowsOf organization
  devices : (first.devicesOf organization).Perm (second.devicesOf organization)

end Holdings

/-- The registry and the endpoint of inquiries, by how they reply. -/
structure Backend where
  /-- What the registry replies for an organization that owns so many devices. -/
  count : String → Nat → Except Failure Nat
  /-- What the endpoint replies to the text of a statement over the rows of its table. -/
  select : String → List Store.Row → Except Store.Fault (List Histogram.Row)

namespace Backend

/-- The collaborators of an inquiry, which changes nothing. -/
def collaborators (backend : Backend) : Collaborators interface Holdings
  | .deviceCount organization, holdings =>
      (backend.count organization (holdings.devicesOf organization).length, holdings)
  | .store (.select text), holdings => (backend.select text holdings.rows, holdings)
  | .store (.ping _), holdings => (.ok (), holdings)
  | .store (.openInsert _ _), holdings => (.ok (), holdings)
  | .store (.write _), holdings => (.ok (), holdings)
  | .store .finish, holdings => (.ok (), holdings)

/-- The endpoint evaluates the statement of a request, unless it fails whatever the rows are. -/
def Evaluates (backend : Backend) (access : Store.Access) (table : String) (request : Request) :
    Prop :=
  ∀ query statement text, request.normalize = .ok query → query.statement table = .ok statement →
    Store.selection access statement = .ok text →
      (∃ fault, ∀ rows, backend.select text rows = .error fault) ∨
        ∀ rows, backend.select text rows = .ok (Store.evaluate statement rows)

theorem collaborators_snd (backend : Backend) (holdings : Holdings) (request : Call) :
    (backend.collaborators request holdings).2 = holdings := by
  cases request with
  | deviceCount organization => rfl
  | store request => cases request <;> rfl

end Backend

/-- An inquiry asks only for the devices of its organization and for its own statement. -/
theorem request_of_course (course : Course (Inquiry.answer access table request) exchanges outcome)
    {exchange : Exchange interface} (member : exchange ∈ exchanges) :
    exchange.request = .deviceCount request.organization ∨
      ∃ query statement text, request.normalize = .ok query ∧
        query.statement table = .ok statement ∧ Store.selection access statement = .ok text ∧
        exchange.request = .store (.select text) := by
  obtain ⟨_, -, rfl, -⟩ | ⟨query, counting, counted, accepted, counts, ended⟩ :=
    course_answer_iff.mp course
  · cases member
  have registry : ∀ exchange ∈ counting, exchange.request = .deviceCount request.organization := by
    intro exchange member
    rw [Counts, (Request.eq_of_normalize accepted).1] at counts
    split at counts
    · rw [counts] at member
      rw [List.mem_singleton.mp member]
    · rw [counts.1] at member
      cases member
  obtain ⟨_, -, rfl, -⟩ | ⟨devices, selecting, windowed, -, read, rfl, -⟩ := ended
  · exact .inl (registry exchange member)
  obtain member | member := List.mem_append.mp member
  · exact .inl (registry exchange member)
  obtain ⟨_, -, rfl, -⟩ | ⟨statement, built, ⟨_, -, rfl, -⟩ | ⟨text, reply, selected, rfl, -⟩⟩ :=
    Store.course_windows_cases read
  · cases member
  · cases member
  · rw [List.mem_singleton.mp member]
    exact .inr ⟨query, statement, text, accepted, built, selected, rfl⟩

/-- Collaborators that know the same of an organization reply alike to its inquiries. -/
theorem reply_eq_of_agree {backend : Backend} (evaluates : backend.Evaluates access table request)
    {first second : Holdings} (agree : Holdings.Agree request.organization first second)
    (course : Course (Inquiry.answer access table request) exchanges outcome)
    {exchange : Exchange interface} (member : exchange ∈ exchanges) :
    (backend.collaborators exchange.request first).1 =
      (backend.collaborators exchange.request second).1 := by
  obtain asked | ⟨query, statement, text, accepted, built, selected, asked⟩ :=
    request_of_course course member
  · rw [asked]
    simp only [Backend.collaborators, agree.devices.length_eq]
  · rw [asked]
    obtain ⟨fault, fails⟩ | evaluated := evaluates query statement text accepted built selected
    · simp only [Backend.collaborators, fails]
    · have owner : query.organization = request.organization := by
        rw [(Request.eq_of_normalize accepted).1]
      have rows := agree.rows
      rw [← owner, Holdings.rowsOf, Holdings.rowsOf] at rows
      simp only [Backend.collaborators, evaluated]
      rw [← Store.evaluate_filter_organization built first.rows, rows,
        Store.evaluate_filter_organization built second.rows]

/-- The outcome of an inquiry depends on its own organization's rows and devices alone. -/
theorem outcome_eq_of_agree {backend : Backend} (evaluates : backend.Evaluates access table request)
    {first second : Holdings} (agree : Holdings.Agree request.organization first second) :
    ((Inquiry.answer access table request).run backend.collaborators first).1 =
      ((Inquiry.answer access table request).run backend.collaborators second).1 := by
  have course := course_run backend.collaborators (Inquiry.answer access table request) first
  have taken := run_of_course (backend.collaborators_snd second) course fun exchange member => by
    rw [reply_of_mem_exchanges (backend.collaborators_snd first) member]
    exact reply_eq_of_agree evaluates agree course member
  rw [taken]

section Example

/-- A registry that counts, and an endpoint that evaluates the statement of the mixed query. -/
def mixedBackend : Backend where
  count _ number := .ok number
  select _ rows :=
    match mixedQuery.statement "t" with
    | .ok statement => .ok (Store.evaluate statement rows)
    | .error _ => .ok []

theorem evaluates_mixedBackend :
    mixedBackend.Evaluates Store.localAccess "t" mixedRequest := by
  intro query statement text accepted built selected
  cases normalize_mixedRequest.symm.trans accepted
  right
  intro rows
  rw [mixedBackend, built]

/-- What an organization has by itself. -/
def ownHoldings : Holdings := ⟨mixedRows, [("d", "o")]⟩

/-- The same beside another organization that has the same readings of a device of this name. -/
def sharedHoldings : Holdings where
  rows := mixedRows.flatMap fun row => [{ row with organization := "p" }, row]
  devices := [("d", "p"), ("d", "o"), ("e", "p")]

/-- Readings of another organization are not counted, though they differ in nothing else. -/
theorem foreign_twins_not_counted :
    ∃ answer,
      ((Inquiry.answer Store.localAccess "t" mixedRequest).run mixedBackend.collaborators
        ownHoldings).1 = .ok answer ∧
      ((Inquiry.answer Store.localAccess "t" mixedRequest).run mixedBackend.collaborators
        sharedHoldings).1 = .ok answer ∧
      answer.summary.total = 2 ∧ answer.summary.devices = 1 := by
  have counts : Counts mixedQuery [⟨.deviceCount "o", .ok 1⟩] (.ok 1) := by
    rw [Counts, if_pos (show mixedQuery.devices = [] from rfl)]
    rfl
  obtain ⟨statement, text, windows, built, -, counted, course⟩ :=
    exists_answer normalize_mixedRequest (by decide) Store.ready_localAccess mixedRows counts
  have taken : (Inquiry.answer Store.localAccess "t" mixedRequest).run mixedBackend.collaborators
      ownHoldings = (.ok (mixedQuery.answer 1 windows), ownHoldings) := by
    refine run_of_course (mixedBackend.collaborators_snd ownHoldings) course ?_
    refine List.forall_mem_cons.mpr ⟨rfl, List.forall_mem_singleton.mpr ?_⟩
    simp only [Backend.collaborators, mixedBackend, built]
    rfl
  have agree : Holdings.Agree mixedRequest.organization ownHoldings sharedHoldings :=
    ⟨by decide +kernel, by decide +kernel⟩
  have same := outcome_eq_of_agree evaluates_mixedBackend agree
  rw [taken] at same
  have chosen : ∀ row ∈ mixedRows, Store.selects statement row = true := by
    intro row member
    rw [Store.selects_iff built]
    revert row
    decide +kernel
  have two : (windows.map Window.count).sum = 2 := by
    rw [counted, List.filter_eq_self.mpr chosen]
    rfl
  have total : (mixedQuery.answer 1 windows).summary.total =
      (windows.map Window.count).sum % totalLimit := rfl
  exact ⟨_, by rw [taken], same.symm, by rw [total, two]; decide, rfl⟩

end Example

end Inquiry
end Telemetry
