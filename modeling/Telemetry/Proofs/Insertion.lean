import Mathlib.Data.List.Forall2
import Telemetry.Proofs.Course
import Telemetry.Proofs.Sending
import Telemetry.Worker

/-!
# Batches in one insert

A batch is written by one insert that is opened, takes the rows one after the other and is finished.
The endpoint can fail at each of these steps, and whichever fails first is the last one that is
asked for.  So a batch is stored exactly when the insert took every row and was finished, and every
fault comes out as a failure of the store.
-/

namespace Telemetry

open Dialogue

namespace Store

/-- Whether a row holds a record: its names, its times in milliseconds and the text of its data. -/
structure Row.Holds (row : Row) (record : Record) : Prop where
  organization : row.organization = record.organization
  device : row.device = record.device
  occurredAt : row.occurredAt = record.occurredAt.millis
  processedAt : row.processedAt = record.processedAt.millis
  data : row.data = record.data.write

theorem holds_toRow (record : Record) : record.toRow.Holds record :=
  ⟨rfl, rfl, rfl, rfl, rfl⟩

/-- The fault that an exchange ends with, if it does. -/
def fault? : Exchange interface → Option Fault
  | ⟨.ping _, .error fault⟩ => some fault
  | ⟨.select _, .error fault⟩ => some fault
  | ⟨.openInsert _ _, .error fault⟩ => some fault
  | ⟨.write _, .error fault⟩ => some fault
  | ⟨.finish, .error fault⟩ => some fault
  | _ => none

def taken (row : Row) : Exchange interface :=
  ⟨.write row, .ok ()⟩

def opened (table description : String) : Exchange interface :=
  ⟨.openInsert table description, .ok ()⟩

/-- What can be exchanged to insert rows, and how it ends. -/
inductive Insertion (table description : String) (rows : List Row) :
    List (Exchange interface) → Except Fault Unit → Prop
  /-- The insert is not opened. -/
  | unopened (fault : Fault) :
      Insertion table description rows [⟨.openInsert table description, .error fault⟩]
        (.error fault)
  /-- Some row is not taken, and no row after it is handed over. -/
  | untaken {before after : List Row} {row : Row} (fault : Fault)
      (split : rows = before ++ row :: after) :
      Insertion table description rows
        (opened table description :: before.map taken ++ [⟨.write row, .error fault⟩])
        (.error fault)
  /-- Every row is taken, and the outcome is that of finishing. -/
  | ended (outcome : Except Fault Unit) :
      Insertion table description rows
        (opened table description :: rows.map taken ++ [⟨.finish, outcome⟩]) outcome

/-- Exchanges that store records: one insert is opened, takes one row for each and is finished. -/
def Stores (table : String) (records : List Record) (exchanges : List (Exchange interface)) :
    Prop :=
  ∃ description rows, List.Forall₂ Row.Holds rows records ∧
    exchanges = opened table description :: rows.map taken ++ [⟨.finish, .ok ()⟩]

/-- What is kept of a batch: it is stored as a whole, or it fails for a fault of the store. -/
structure AllOrError (access : Access) (table : String) (records : List Record)
    (exchanges : List (Exchange interface)) (outcome : Except Failure Unit) : Prop where
  /-- Without records nothing is asked. -/
  empty : records = [] → exchanges = [] ∧ outcome = .ok ()
  /-- Records are stored exactly when the batch succeeds. -/
  stored : records ≠ [] → (outcome = .ok () ↔ Stores table records exchanges)
  /-- Where the insert cannot be sent, the batch fails and nothing is asked. -/
  unsent : records ≠ [] → ∀ fault, describe access table = .error fault →
    exchanges = [] ∧ outcome = .error (.store (.of (.endpoint fault)))
  /-- Wherever the endpoint fails, the batch fails for it and nothing further is asked. -/
  faulty : ∀ exchange ∈ exchanges, ∀ fault, fault? exchange = some fault →
    exchanges.getLast? = some exchange ∧ outcome = .error (.store (.of (.endpoint fault)))
  /-- A batch fails for nothing else. -/
  failed : ∀ failure, outcome = .error failure →
    ∃ fault, failure = .store (.of (.endpoint fault)) ∧
      (describe access table = .error fault ∨ ∃ exchange ∈ exchanges, fault? exchange = some fault)

variable {access : Access} {table description : String} {records : List Record} {rows : List Row}
  {exchanges : List (Exchange interface)} {outcome : Except Failure Unit}
  {result : Except Fault Unit}

/-- Rows are handed over until one is not taken, or all of them. -/
theorem course_writeRows_iff :
    Course (writeRows rows) exchanges result ↔
      (∃ before row after fault, rows = before ++ row :: after ∧
        exchanges = before.map taken ++ [⟨.write row, .error fault⟩] ∧ result = .error fault) ∨
      exchanges = rows.map taken ++ [⟨.finish, result⟩] := by
  induction rows generalizing exchanges with
  | nil =>
      rw [writeRows, course_ask_iff]
      constructor
      · exact .inr
      · rintro (⟨before, row, after, fault, impossible, -⟩ | same)
        · simp at impossible
        · exact same
  | cons row rest ih =>
      rw [writeRows, course_call_iff]
      constructor
      · rintro ⟨reply, further, rfl, course⟩
        match reply with
        | .error fault =>
            obtain ⟨rfl, rfl⟩ := course_done_iff.mp course
            exact .inl ⟨[], row, rest, fault, rfl, rfl, rfl⟩
        | .ok () =>
            obtain ⟨before, next, after, fault, rfl, rfl, rfl⟩ | rfl := ih.mp course
            · exact .inl ⟨row :: before, next, after, fault, rfl, rfl, rfl⟩
            · exact .inr rfl
      · rintro (⟨before, next, after, fault, split, rfl, rfl⟩ | rfl)
        · cases before with
          | nil =>
              obtain ⟨rfl, rfl⟩ := List.cons.inj split
              exact ⟨.error fault, [], rfl, .done _⟩
          | cons first before =>
              obtain ⟨rfl, rfl⟩ := List.cons.inj split
              exact ⟨.ok (), _, rfl, ih.mpr (.inl ⟨before, next, after, fault, rfl, rfl, rfl⟩)⟩
        · exact ⟨.ok (), _, rfl, ih.mpr (.inr rfl)⟩

theorem course_store_nil_iff :
    Course (Store.store access table []) exchanges outcome ↔
      exchanges = [] ∧ outcome = .ok () := by
  rw [Store.store]
  exact course_done_iff.trans (and_congr_right fun _ => eq_comm)

theorem course_store_of_undescribed (some : records ≠ []) {fault : Fault}
    (described : describe access table = .error fault) :
    Course (Store.store access table records) exchanges outcome ↔
      exchanges = [] ∧ outcome = .error fault.toFailure := by
  rw [Store.store, if_neg (by simpa using some), described]
  exact course_done_iff.trans (and_congr_right fun _ => eq_comm)

/-- Records are written by the insertion of their rows. -/
theorem course_store_iff (some : records ≠ [])
    (described : describe access table = .ok description) :
    Course (Store.store access table records) exchanges outcome ↔
      ∃ result, Insertion table description (records.map Record.toRow) exchanges result ∧
        outcome = result.mapError Fault.toFailure := by
  rw [Store.store, if_neg (by simpa using some), described]
  dsimp only
  rw [course_call_iff]
  constructor
  · rintro ⟨reply, rest, rfl, course⟩
    match reply with
    | .error fault =>
        obtain ⟨rfl, rfl⟩ := course_done_iff.mp course
        exact ⟨.error fault, .unopened fault, rfl⟩
    | .ok () =>
        obtain ⟨written, result, last, rfl, writing, ended⟩ := course_bind_iff.mp course
        obtain ⟨rfl, rfl⟩ := course_done_iff.mp ended
        rw [List.append_nil]
        refine ⟨result, ?_, rfl⟩
        obtain ⟨before, row, after, fault, split, rfl, rfl⟩ | rfl := course_writeRows_iff.mp writing
        · exact .untaken fault split
        · exact .ended result
  · rintro ⟨result, insertion, rfl⟩
    cases insertion with
    | unopened fault => exact ⟨.error fault, [], rfl, .done _⟩
    | untaken fault split =>
        refine ⟨.ok (), _, rfl, course_bind_iff.mpr ⟨_, .error fault, [],
          (List.append_nil _).symm, course_writeRows_iff.mpr (.inl ?_), .done _⟩⟩
        exact ⟨_, _, _, fault, split, rfl, rfl⟩
    | ended =>
        exact ⟨.ok (), _, rfl, course_bind_iff.mpr ⟨_, result, [], (List.append_nil _).symm,
          course_writeRows_iff.mpr (.inr rfl), .done _⟩⟩

theorem eq_last_of_fault? {exchange last : Exchange interface}
    (member : exchange ∈ opened table description :: rows.map taken ++ [last]) {fault : Fault}
    (fails : fault? exchange = some fault) : exchange = last := by
  rw [List.cons_append, List.mem_cons, List.mem_append, List.mem_singleton] at member
  obtain rfl | member | same := member
  · cases fails
  · obtain ⟨row, -, rfl⟩ := List.mem_map.mp member
    cases fails
  · exact same

theorem Stores.fault?_ne_some (stores : Stores table records exchanges)
    {exchange : Exchange interface} (member : exchange ∈ exchanges) (fault : Fault) :
    fault? exchange ≠ some fault := by
  obtain ⟨description, rows, -, rfl⟩ := stores
  intro fails
  obtain rfl := eq_last_of_fault? member fails
  cases fails

namespace Insertion

/-- Only the last exchange of an insertion can fail, and then the insertion does. -/
theorem faulty (insertion : Insertion table description rows exchanges result)
    {exchange : Exchange interface} (member : exchange ∈ exchanges) {fault : Fault}
    (fails : fault? exchange = some fault) :
    exchanges.getLast? = some exchange ∧ result = .error fault := by
  cases insertion with
  | unopened own =>
      obtain rfl := List.mem_singleton.mp member
      cases fails
      exact ⟨rfl, rfl⟩
  | untaken own split =>
      obtain rfl := eq_last_of_fault? member fails
      cases fails
      exact ⟨List.getLast?_concat, rfl⟩
  | ended =>
      obtain rfl := eq_last_of_fault? member fails
      cases result with
      | ok _ => cases fails
      | error own =>
          cases fails
          exact ⟨List.getLast?_concat, rfl⟩

theorem exists_fault {fault : Fault}
    (insertion : Insertion table description rows exchanges (.error fault)) :
    ∃ exchange ∈ exchanges, fault? exchange = some fault := by
  cases insertion with
  | unopened => exact ⟨_, List.mem_singleton_self _, rfl⟩
  | untaken _ split => exact ⟨_, List.mem_concat_self, rfl⟩
  | ended => exact ⟨_, List.mem_concat_self, rfl⟩

theorem stores (insertion :
      Insertion table description (records.map Record.toRow) exchanges (.ok ())) :
    Stores table records exchanges := by
  cases insertion with
  | ended =>
      refine ⟨description, records.map Record.toRow, ?_, rfl⟩
      rw [List.forall₂_map_left_iff, List.forall₂_same]
      exact fun record _ => holds_toRow record

end Insertion

theorem allOrError_nil : AllOrError access table [] [] (.ok ()) where
  empty _ := ⟨rfl, rfl⟩
  stored some := absurd rfl some
  unsent some := absurd rfl some
  faulty := nofun
  failed := nofun

theorem allOrError_of_undescribed (some : records ≠ []) {fault : Fault}
    (described : describe access table = .error fault) :
    AllOrError access table records [] (.error fault.toFailure) := by
  constructor
  case empty => exact fun none => absurd none some
  case stored =>
    refine fun _ => ⟨nofun, ?_⟩
    rintro ⟨description, rows, -, impossible⟩
    cases impossible
  case unsent =>
    intro _ other again
    cases described.symm.trans again
    exact ⟨rfl, rfl⟩
  case faulty => exact nofun
  case failed =>
    intro failure fails
    cases fails
    exact ⟨fault, rfl, .inl described⟩

/-- An insertion of a batch is all or an error. -/
theorem allOrError_of_insertion (some : records ≠ [])
    (described : describe access table = .ok description)
    (insertion : Insertion table description (records.map Record.toRow) exchanges result) :
    AllOrError access table records exchanges (result.mapError Fault.toFailure) := by
  constructor
  case empty => exact fun none => absurd none some
  case stored =>
    intro _
    constructor
    · intro succeeds
      cases result with
      | ok _ => exact insertion.stores
      | error fault => cases succeeds
    · intro stores
      cases result with
      | ok _ => rfl
      | error fault =>
          obtain ⟨exchange, member, fails⟩ := insertion.exists_fault
          exact absurd fails (stores.fault?_ne_some member fault)
  case unsent =>
    intro _ fault undescribed
    cases described.symm.trans undescribed
  case faulty =>
    intro exchange member fault fails
    obtain ⟨last, rfl⟩ := insertion.faulty member fails
    exact ⟨last, rfl⟩
  case failed =>
    intro failure fails
    cases result with
    | ok _ => cases fails
    | error fault =>
        cases fails
        exact ⟨fault, rfl, .inr insertion.exists_fault⟩

/-- A batch is stored as a whole by one insert or fails. -/
theorem batch_all_or_error (access : Access) (table : String) (records : List Record) :
    (∀ exchanges outcome, Course (Store.store access table records) exchanges outcome →
      AllOrError access table records exchanges outcome) ∧
    (Writer.store records).through (Worker.storing access table) =
      Store.store access table records ∧
    ∀ exchanges outcome, Course (Writer.store []) exchanges outcome →
      exchanges = [] ∧ outcome = .ok () := by
  refine ⟨fun exchanges outcome course => ?_, ?_, fun exchanges outcome course => ?_⟩
  · by_cases none : records = []
    · subst none
      obtain ⟨rfl, rfl⟩ := course_store_nil_iff.mp course
      exact allOrError_nil
    cases described : describe access table with
    | error fault =>
        obtain ⟨rfl, rfl⟩ := (course_store_of_undescribed none described).mp course
        exact allOrError_of_undescribed none described
    | ok description =>
        obtain ⟨result, insertion, rfl⟩ := (course_store_iff none described).mp course
        exact allOrError_of_insertion none described insertion
  · cases records with
    | nil => rfl
    | cons record rest => exact bind_done _
  · obtain ⟨rfl, rfl⟩ := course_done_iff.mp course
    exact ⟨rfl, rfl⟩

section Example

/-- Two records without data, the first one of the last millisecond before the epoch. -/
def epochRecords : List Record :=
  [⟨"o", "d", ⟨-1, 999000000, by decide⟩, ⟨20, 100, by decide⟩, .empty⟩,
    ⟨"o", "d", ⟨20, 200, by decide⟩, ⟨20, 500000, by decide⟩, .empty⟩]

/-- The batch is stored unless the endpoint is full after the first row. -/
theorem second_row_decides :
    ∃ stored failed outcome,
      Course (Store.store localAccess "t" epochRecords) stored (.ok ()) ∧ stored.length = 4 ∧
      Stores "t" epochRecords stored ∧
      Course (Store.store localAccess "t" epochRecords) failed outcome ∧ failed.length = 3 ∧
      outcome = .error (.store (.of (.endpoint (.refused "full")))) ∧
      ¬Stores "t" epochRecords failed := by
  have some : epochRecords ≠ [] := List.cons_ne_nil _ _
  have kept := (batch_all_or_error localAccess "t" epochRecords).1
  have success := (course_store_iff some describe_localAccess).mpr ⟨.ok (), .ended _, rfl⟩
  have split : epochRecords.map Record.toRow =
      [(epochRecords.head some).toRow] ++ (epochRecords.getLast some).toRow :: [] := rfl
  have failure := (course_store_iff some describe_localAccess).mpr
    ⟨_, .untaken (.refused "full") split, rfl⟩
  have fails := ((kept _ _ failure).faulty _ List.mem_concat_self (.refused "full") rfl).2
  refine ⟨_, _, _, success, rfl, ((kept _ _ success).stored some).mp rfl, failure, rfl, fails, ?_⟩
  intro stores
  cases ((kept _ _ failure).stored some).mpr stores

end Example

end Store
end Telemetry
