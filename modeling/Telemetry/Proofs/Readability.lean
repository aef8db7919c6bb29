import Telemetry.Proofs.Gateway
import Telemetry.Proofs.Wire.Record
import Telemetry.Proofs.Writer

/-!
# Which accepted readings can be read

The gateway looks at a payload only to see that it is not empty, and writes it to the wire however
deeply it is nested and whatever leap second it is from.  The worker reads it back only within the
budget of the wire and only at a time that can be looked up, so any other accepted reading makes
every batch with it go back.
-/

namespace Telemetry

namespace Gateway

section Deliveries

variable {base : String} {visit : Visit}

theorem decode_delivery (short : visit.record.encode.length < 0x10000000000000000)
    (shallow : visit.reading.data.nesting ≤ Wire.nestingBudget) (regular : visit.record.Regular) :
    Record.decode (visit.delivery base).payload = .ok visit.record.asDoubles :=
  Record.decode_encode short shallow regular

theorem decode_delivery_of_irregular (short : visit.record.encode.length < 0x10000000000000000)
    (shallow : visit.reading.data.nesting ≤ Wire.nestingBudget)
    (irregular : ¬visit.record.Regular) :
    ∃ instant, (instant = visit.record.occurredAt ∨ instant = visit.record.processedAt) ∧
      Record.decode (visit.delivery base).payload =
        .error (.noSuchInstant instant.seconds instant.nanos) :=
  Record.decode_encode_of_irregular short shallow irregular

theorem decode_delivery_of_deep (short : visit.record.encode.length < 0x10000000000000000)
    (deep : Wire.nestingBudget < visit.reading.data.nesting) :
    ∃ fault : Wire.Fault, fault.reason = .tooDeep ∧
      Record.decode (visit.delivery base).payload = .error (.malformed fault) :=
  Record.decode_encode_of_deep short deep

theorem exists_error_iff (short : visit.record.encode.length < 0x10000000000000000) :
    (∃ why, Record.decode (visit.delivery base).payload = .error why) ↔
      Wire.nestingBudget < visit.reading.data.nesting ∨ ¬visit.record.Regular := by
  constructor
  · rintro ⟨why, failed⟩
    by_contra carried
    obtain ⟨shallow, regular⟩ := not_or.mp carried
    rw [decode_delivery short (Nat.le_of_not_lt shallow) (not_not.mp regular)] at failed
    cases failed
  · intro lost
    by_cases deep : Wire.nestingBudget < visit.reading.data.nesting
    · obtain ⟨fault, _, failed⟩ := decode_delivery_of_deep short deep
      exact ⟨_, failed⟩
    · obtain ⟨instant, _, failed⟩ := decode_delivery_of_irregular short (Nat.le_of_not_lt deep)
        (lost.resolve_left deep)
      exact ⟨_, failed⟩

/-- A batch is misread exactly when a message of it is too deep or irregular. -/
theorem processor_misreads_iff {access : Store.Access} {table : String} {picks : List Visit}
    (short : ∀ visit ∈ picks, visit.record.encode.length < 0x10000000000000000) :
    (∃ why, Worker.processor access table (picks.map (Visit.delivery base)) =
        .done (.returnAll picks.length (.ofFailure (.misread why)))) ↔
      ∃ visit ∈ picks, Wire.nestingBudget < visit.reading.data.nesting ∨
        ¬visit.record.Regular := by
  have count : picks.length = (picks.map (Visit.delivery base)).length := by simp
  rw [count]
  constructor
  · rintro ⟨why, misread⟩
    by_contra none
    have read : Writer.decodeFrom 0 (picks.map (Visit.delivery base)) =
        .ok (picks.map fun visit => visit.record.asDoubles) := by
      refine Writer.decodeFrom_map fun visit member => ?_
      have carried := fun lost => none ⟨visit, member, lost⟩
      obtain ⟨shallow, regular⟩ := not_or.mp carried
      exact decode_delivery (short visit member) (Nat.le_of_not_lt shallow) (not_not.mp regular)
    exact Worker.processor_ne_of_read read misread
  · rintro ⟨visit, member, lost⟩
    cases read : Writer.decodeFrom 0 (picks.map (Visit.delivery base)) with
    | error failure =>
        obtain ⟨place, delivery, _, why, _, rfl⟩ := Writer.exists_of_decodeFrom_eq_error read
        exact ⟨_, Worker.processor_eq_of_misread read⟩
    | ok records =>
        obtain ⟨why, undecodable⟩ := (exists_error_iff (short visit member)).mpr lost
        obtain ⟨record, _, decoded⟩ :=
          Writer.exists_record_of_decodeFrom read (List.mem_map_of_mem member)
        rw [undecodable] at decoded
        cases decoded

end Deliveries

/-- An accepted reading is read back exactly when it is shallow and its times are regular. -/
theorem accepted_readable_iff_carried (base : String) (visits : List Visit)
    (access : Store.Access) (table : String)
    (short : ∀ visit ∈ visits, visit.record.encode.length < 0x10000000000000000) :
    queueAfter base visits = (accepted base visits).map (Visit.delivery base) ∧
      (∀ visit ∈ accepted base visits,
        (visit.reading.data.nesting ≤ Wire.nestingBudget → visit.record.Regular →
          Record.decode (visit.delivery base).payload = .ok visit.record.asDoubles) ∧
        (visit.reading.data.nesting ≤ Wire.nestingBudget → ¬visit.record.Regular →
          ∃ instant, (instant = visit.record.occurredAt ∨ instant = visit.record.processedAt) ∧
            Record.decode (visit.delivery base).payload =
              .error (.noSuchInstant instant.seconds instant.nanos)) ∧
        (Wire.nestingBudget < visit.reading.data.nesting →
          ∃ fault : Wire.Fault, fault.reason = .tooDeep ∧
            Record.decode (visit.delivery base).payload = .error (.malformed fault))) ∧
      ∀ picks : List Visit, (∀ visit ∈ picks, visit ∈ accepted base visits) →
        ((∃ why, Worker.processor access table (picks.map (Visit.delivery base)) =
            .done (.returnAll picks.length (.ofFailure (.misread why)))) ↔
          ∃ visit ∈ picks, Wire.nestingBudget < visit.reading.data.nesting ∨
            ¬visit.record.Regular) := by
  have sound : ∀ visit ∈ accepted base visits,
      visit.record.encode.length < 0x10000000000000000 := by
    intro visit member
    exact short visit (List.mem_of_mem_filter member)
  refine ⟨queueAfter_eq base visits, ?_, ?_⟩
  · intro visit member
    exact ⟨decode_delivery (sound visit member), decode_delivery_of_irregular (sound visit member),
      decode_delivery_of_deep (sound visit member)⟩
  · intro picks members
    exact processor_misreads_iff fun visit member => sound visit (members visit member)

section Nested

/-- Objects within each other, as many as the depth says, each the only field of the one around
it. -/
def nestedValue : Nat → Value
  | 0 => .null
  | depth + 1 => .object [("a", nestedValue depth)]

theorem ordered_nestedValue (depth : Nat) : (nestedValue depth).ordered = true := by
  induction depth with
  | zero => rfl
  | succ depth ih =>
      simp [nestedValue, Value.ordered, Value.orderedFields, Keyed.precedes, ih]

/-- A document of nested objects, itself the outermost. -/
def nestedDocument (depth : Nat) : Document :=
  ⟨[("a", nestedValue depth)], ordered_nestedValue (depth + 1)⟩

theorem nesting_nestedValue (depth : Nat) : (nestedValue depth).nesting = 3 * depth := by
  induction depth with
  | zero => rfl
  | succ depth ih =>
      simp only [nestedValue, Value.nesting, Value.nestingFields, ih]
      omega

theorem nesting_nestedDocument (depth : Nat) :
    (nestedDocument depth).nesting = 3 * (depth + 1) :=
  nesting_nestedValue (depth + 1)

/-- A visit of a device to the gateway of its owner, with nested objects for a payload. -/
def nestedVisit (depth : Nat) : Visit where
  organization := "o"
  reading := ⟨"d", none, nestedDocument depth⟩
  registry := fun _ => .ok (some "o")
  now := ⟨0, 0, by decide⟩
  sent := .ok ()

/-- A visit with a reading from within a leap second that ends no minute. -/
def leapVisit : Visit where
  organization := "o"
  reading := ⟨"d", some ⟨86165, 1250000000, by decide⟩, nestedDocument 0⟩
  registry := fun _ => .ok (some "o")
  now := ⟨90000, 0, by decide⟩
  sent := .ok ()

theorem isAccepted_nestedVisit (base : String) (depth : Nat) :
    (nestedVisit depth).isAccepted base = true :=
  Visit.isAccepted_of_owned rfl rfl rfl

theorem isAccepted_leapVisit (base : String) : leapVisit.isAccepted base = true :=
  Visit.isAccepted_of_owned rfl rfl rfl

theorem accepted_eq_self {base : String} {visits : List Visit}
    (welcome : ∀ visit ∈ visits, visit.isAccepted base = true) : accepted base visits = visits :=
  List.filter_eq_self.mpr welcome

end Nested

/-- Thirty-three objects within each other are read back; one more is too deep. -/
theorem readable_up_to_thirty_three_objects :
    Record.decode ((nestedVisit 32).delivery "b").payload = .ok (nestedVisit 32).record.asDoubles ∧
      (∃ fault : Wire.Fault, fault.reason = .tooDeep ∧
        Record.decode ((nestedVisit 33).delivery "b").payload = .error (.malformed fault)) ∧
      ∃ instant, (instant = leapVisit.record.occurredAt ∨
          instant = leapVisit.record.processedAt) ∧
        Record.decode (leapVisit.delivery "b").payload =
          .error (.noSuchInstant instant.seconds instant.nanos) := by
  have short : ∀ visit ∈ [nestedVisit 32, nestedVisit 33, leapVisit],
      visit.record.encode.length < 0x10000000000000000 := by
    decide +kernel
  have all : accepted "b" [nestedVisit 32, nestedVisit 33, leapVisit] =
      [nestedVisit 32, nestedVisit 33, leapVisit] :=
    accepted_eq_self (by simp [isAccepted_nestedVisit, isAccepted_leapVisit])
  have readable := (accepted_readable_iff_carried "b" [nestedVisit 32, nestedVisit 33, leapVisit]
    ⟨"", "", "", ""⟩ "t" short).2.1
  rw [all] at readable
  refine ⟨?_, ?_, ?_⟩
  · refine (readable (nestedVisit 32) (by simp)).1 ?_ (by decide)
    exact Nat.le_trans (Nat.le_of_eq (nesting_nestedDocument 32)) (by decide)
  · refine (readable (nestedVisit 33) (by simp)).2.2 ?_
    exact Nat.lt_of_lt_of_eq (by decide) (nesting_nestedDocument 33).symm
  · refine (readable leapVisit (by simp)).2.1 ?_ (by decide)
    exact Nat.le_trans (Nat.le_of_eq (nesting_nestedDocument 0)) (by decide)

/-- Thirty-four objects within each other are accepted, and every batch with them goes back. -/
theorem accepted_but_unreadable :
    (nestedVisit 33).isAccepted "b" = true ∧
      queueAfter "b" [nestedVisit 33] = [(nestedVisit 33).delivery "b"] ∧
        (∀ record, Record.decode ((nestedVisit 33).delivery "b").payload ≠ .ok record) ∧
          ∀ access table, ∃ why, Worker.processor access table [(nestedVisit 33).delivery "b"] =
            .done (.returnAll 1 (.ofFailure (.misread why))) := by
  have short : (nestedVisit 33).record.encode.length < 0x10000000000000000 := by
    decide +kernel
  have deep : Wire.nestingBudget < (nestedVisit 33).reading.data.nesting :=
    Nat.lt_of_lt_of_eq (by decide) (nesting_nestedDocument 33).symm
  refine ⟨isAccepted_nestedVisit "b" 33, ?_, ?_, ?_⟩
  · rw [queueAfter_eq, accepted, List.filter_cons, if_pos (isAccepted_nestedVisit "b" 33)]
    rfl
  · intro record decoded
    obtain ⟨fault, _, undecodable⟩ := decode_delivery_of_deep short deep
    rw [undecodable] at decoded
    cases decoded
  · intro access table
    have sound : ∀ visit ∈ [nestedVisit 33],
        visit.record.encode.length < 0x10000000000000000 := by
      simpa using short
    exact (processor_misreads_iff sound).mpr
      ⟨nestedVisit 33, List.mem_singleton_self _, .inl deep⟩

end Gateway
end Telemetry
