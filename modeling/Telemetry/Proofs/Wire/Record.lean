import Telemetry.Proofs.Wire.Payload
import Telemetry.Wire.RecordMessage

/-!
# Reading records back

A record that was written is read back with the numbers of its payload as doubles and everything
else unchanged, unless its payload is nested too deeply, one of its parts is too long for a length
of sixty-four bits, or one of its times lies in a leap second that does not end a minute.
-/

namespace Telemetry

/-- The times of a record can be looked up by their parts. -/
structure Record.Regular (record : Record) : Prop where
  occurredAt : record.occurredAt.isRegular = true
  processedAt : record.processedAt.isRegular = true

instance (record : Record) : Decidable record.Regular :=
  decidable_of_iff (record.occurredAt.isRegular = true ∧ record.processedAt.isRegular = true)
    ⟨fun both => ⟨both.1, both.2⟩, fun regular => ⟨regular.occurredAt, regular.processedAt⟩⟩

namespace Wire

section Times

theorem signedBits_unsignedBits {value : Int} (low : -0x8000000000000000 ≤ value)
    (high : value < 0x8000000000000000) : signedBits 64 (unsignedBits value) = value := by
  have cast : ((unsignedBits value : Nat) : Int) = value % 0x10000000000000000 :=
    Int.toNat_of_nonneg (Int.emod_nonneg value (by decide))
  have width : 1 <<< 64 = 0x10000000000000000 := rfl
  rw [signedBits, cast, width]
  simp only [Int.bmod_def]
  omega

theorem signedBits_of_small {value : Nat} (small : value < 0x80000000) :
    signedBits 32 value = value := by
  have width : 1 <<< 32 = 0x100000000 := rfl
  rw [signedBits, width]
  exact Int.bmod_eq_of_le (by omega) (by omega)

def Stamp.ofInstant (instant : Instant) : Stamp :=
  ⟨instant.seconds, instant.nanos⟩

theorem Stamp.toInstant_ofInstant (instant : Instant) :
    (Stamp.ofInstant instant).toInstant =
      if instant.isRegular then .ok instant
      else .error (.noSuchInstant instant.seconds instant.nanos) := by
  have notNegative : ¬(instant.nanos : Int) < 0 := by omega
  rw [Stamp.ofInstant, Stamp.toInstant, if_neg notNegative, Int.toNat_natCast]
  split
  · rename_i found same
    obtain ⟨⟨seconds, nanos⟩, regular⟩ := Instant.ofParts?_eq_some_iff.mp same
    obtain rfl := Instant.eq_of_parts seconds nanos
    rw [if_pos regular]
  · rename_i none
    rw [if_neg]
    intro regular
    rw [Instant.ofParts?_eq_some_iff.mpr ⟨⟨rfl, rfl⟩, regular⟩] at none
    cases none

theorem Stamp.isRegular_of_toInstant {stamp : Stamp} {instant : Instant}
    (named : stamp.toInstant = .ok instant) : instant.isRegular = true := by
  rw [Stamp.toInstant] at named
  split at named
  · cases named
  · split at named
    · rename_i found same
      cases named
      exact (Instant.ofParts?_eq_some_iff.mp same).2
    · cases named

theorem yields_seconds (budget : Nat) (stamp : Stamp) (value : Int)
    (low : -0x8000000000000000 ≤ value) (high : value < 0x8000000000000000) :
    Yields (readStampField budget stamp) (writeKey 1 .varint ++ writeVarint (unsignedBits value))
      (.ok { stamp with seconds := value }) := by
  have fits : unsignedBits value < 0x10000000000000000 := by
    unfold unsignedBits
    omega
  intro rest
  rw [readStampField]
  refine Yields.bind (yields_key .varint (by decide) (by decide)) ?_ rest
  refine Yields.within .seconds ?_
  refine (yields_number fits).mapTo (fun read => { stamp with seconds := signedBits 64 read })
    (fun _ _ => rfl) ?_
  rw [ok_bind, signedBits_unsignedBits low high]

theorem yields_nanos (budget : Nat) (stamp : Stamp) (value : Nat) (small : value < 0x80000000) :
    Yields (readStampField budget stamp) (writeKey 2 .varint ++ writeVarint value)
      (.ok { stamp with nanos := value }) := by
  have fits : value < 0x10000000000000000 := by omega
  intro rest
  rw [readStampField]
  refine Yields.bind (yields_key .varint (by decide) (by decide)) ?_ rest
  refine Yields.within .nanos ?_
  refine (yields_number fits).mapTo (fun read => { stamp with nanos := signedBits 32 read })
    (fun _ _ => rfl) ?_
  rw [ok_bind, signedBits_of_small small]

theorem writeKey_ne_nil (tag : Nat) (wireType : WireType) : writeKey tag wireType ≠ [] :=
  writeGroups_ne_nil 9 _

/-- A time is read back whole, zero parts being left out. -/
theorem reads_stamp (budget : Nat) (instant : Instant) :
    Reads (readStampField budget) ⟨0, 0⟩ (writeStamp instant) (.ok (Stamp.ofInstant instant)) := by
  obtain ⟨low, high, small⟩ := instant.bounds
  simp only [firstSecond, lastSecond, nanosPerSecond] at low high small
  have seconds := yields_seconds budget ⟨0, 0⟩ instant.seconds (by omega) (by omega)
  have nanos := yields_nanos budget ⟨instant.seconds, 0⟩ instant.nanos (by omega)
  refine Reads.optional (.ok ⟨instant.seconds, 0⟩) (fun _ => .ok (Stamp.ofInstant instant))
    (by simp [writeKey_ne_nil]) ?_ ?_ ?_
  · intro zero
    rw [zero]
  · intro _
    exact seconds
  · rintro found ⟨⟩
    rw [← List.append_nil (if instant.nanos = 0 then _ else _)]
    refine Reads.optional (.ok (Stamp.ofInstant instant)) .ok (by simp [writeKey_ne_nil]) ?_ ?_ ?_
    · intro zero
      rw [Stamp.ofInstant, zero]
      rfl
    · intro _
      exact nanos
    · rintro found ⟨⟩
      exact Reads.nil

theorem length_writeGroups_le (room value : Nat) : (writeGroups room value).length ≤ room := by
  induction room generalizing value with
  | zero => exact Nat.le_refl 0
  | succ room ih =>
      rw [writeGroups]
      split
      · simp
      · simpa using ih (value / 128)

theorem length_writeStamp_le (instant : Instant) : (writeStamp instant).length ≤ 40 := by
  have key (tag : Nat) : (writeKey tag .varint).length ≤ 10 := length_writeGroups_le 10 _
  have number (value : Nat) : (writeVarint value).length ≤ 10 := length_writeGroups_le 10 value
  have first := key 1
  have second := key 2
  have seconds := number (unsignedBits instant.seconds)
  have nanos := number instant.nanos
  rw [writeStamp, List.length_append]
  split <;> split <;> simp only [List.length_append, List.length_nil] <;> omega

end Times

section Fields

variable (budget : Nat) (message : Message)

theorem yields_organization (organization : String) :
    Yields (Message.readField budget message) (writeField 1 (textBytes organization))
      (fitting (textBytes organization).length (.ok { message with organization })) := by
  intro rest
  rw [Message.readField]
  refine Yields.bind (yields_key .delimited (by decide) (by decide)) ?_ rest
  refine Yields.within .organization ?_
  refine (yields_anyText organization).mapTo (fun read => { message with organization := read })
    (fun _ _ => rfl) ?_
  rw [fitting_bind, ok_bind]

theorem yields_device (device : String) :
    Yields (Message.readField budget message) (writeField 2 (textBytes device))
      (fitting (textBytes device).length (.ok { message with device })) := by
  intro rest
  rw [Message.readField]
  refine Yields.bind (yields_key .delimited (by decide) (by decide)) ?_ rest
  refine Yields.within .device ?_
  refine (yields_anyText device).mapTo (fun read => { message with device := read })
    (fun _ _ => rfl) ?_
  rw [fitting_bind, ok_bind]

theorem yields_stamp (instant : Instant) :
    Yields (readStamp (budget + 1) none .delimited) (writeDelimited (writeStamp instant))
      (.ok (Stamp.ofInstant instant)) := by
  have short := length_writeStamp_le instant
  exact (reads_stamp budget instant).delimited (by omega)

theorem yields_occurredAt (instant : Instant) (fresh : message.occurredAt = none) :
    Yields (Message.readField (budget + 1) message) (writeField 3 (writeStamp instant))
      (.ok { message with occurredAt := some (Stamp.ofInstant instant) }) := by
  intro rest
  rw [Message.readField]
  refine Yields.bind (yields_key .delimited (by decide) (by decide)) ?_ rest
  refine Yields.within .occurredAt ?_
  rw [fresh]
  exact (yields_stamp budget instant).mapTo
    (fun stamp => { message with occurredAt := some stamp }) (fun _ _ => rfl) (ok_bind _ _)

theorem yields_processedAt (instant : Instant) (fresh : message.processedAt = none) :
    Yields (Message.readField (budget + 1) message) (writeField 4 (writeStamp instant))
      (.ok { message with processedAt := some (Stamp.ofInstant instant) }) := by
  intro rest
  rw [Message.readField]
  refine Yields.bind (yields_key .delimited (by decide) (by decide)) ?_ rest
  refine Yields.within .processedAt ?_
  rw [fresh]
  exact (yields_stamp budget instant).mapTo
    (fun stamp => { message with processedAt := some stamp }) (fun _ _ => rfl) (ok_bind _ _)

/-- The payload costs its nesting. -/
theorem yields_data (document : Document) (fresh : message.data = none) :
    Yields (Message.readField (budget + 1) message) (writeField 5 (writeStruct document.fields))
      (fitting (writeStruct document.fields).length
        (spend document.nesting (budget + 1)
          { message with data := some (Slot.ofFields document.fields) })) := by
  intro rest
  rw [Message.readField, Document.nesting, Value.nesting, spend_succ]
  refine Yields.bind (yields_key .delimited (by decide) (by decide)) ?_ rest
  refine Yields.within .data ?_
  rw [fresh]
  refine (Reads.delimited_of_any (reads_document document · budget)).mapTo
    (fun read => { message with data := some read }) (fun _ _ => rfl) ?_
  rw [fitting_bind, spend_bind_ok]

end Fields

/-- The message that a record is read back as. -/
def Message.ofRecord (record : Record) : Message :=
  { organization := record.organization
    device := record.device
    occurredAt := some (Stamp.ofInstant record.occurredAt)
    processedAt := some (Stamp.ofInstant record.processedAt)
    data := some (Slot.ofFields record.data.fields) }

/-- What a record is read back as: too long, too deep, or as it was. -/
theorem outcome_read_encode (record : Record) :
    outcome (Message.read record.encode) =
      fitting (textBytes record.organization).length
        (fitting (textBytes record.device).length
          (fitting (writeStruct record.data.fields).length
            (spend record.data.nesting nestingBudget (Message.ofRecord record)))) := by
  let named : Message := { Message.blank with organization := record.organization }
  let placed : Message := { named with device := record.device }
  let dated : Message := { placed with occurredAt := some (Stamp.ofInstant record.occurredAt) }
  let stamped : Message := { dated with processedAt := some (Stamp.ofInstant record.processedAt) }
  have payload := Reads.one writeField_ne_nil (yields_data 99 stamped record.data rfl)
  have processed := payload.cons_ok writeField_ne_nil
    (yields_processedAt 99 dated record.processedAt rfl)
  have occurred := processed.cons_ok writeField_ne_nil
    (yields_occurredAt 99 placed record.occurredAt rfl)
  have device := Reads.optional (fitting (textBytes record.device).length (.ok placed))
    (fun _ => fitting (writeStruct record.data.fields).length
      (spend record.data.nesting nestingBudget (Message.ofRecord record))) writeField_ne_nil
    (fun none : record.device = "" => congrArg (fun device => fitting (textBytes device).length
      (.ok { named with device })) none)
    (fun _ => yields_device 100 named record.device) fun found same => by
      obtain rfl := Except.ok.inj (eq_ok_of_fitting same)
      exact occurred
  rw [fitting_bind, ok_bind] at device
  have organization := Reads.optional
    (fitting (textBytes record.organization).length (.ok named))
    (fun _ => fitting (textBytes record.device).length
      (fitting (writeStruct record.data.fields).length
        (spend record.data.nesting nestingBudget (Message.ofRecord record)))) writeField_ne_nil
    (fun none : record.organization = "" => congrArg (fun organization =>
      fitting (textBytes organization).length (.ok { Message.blank with organization })) none)
    (fun _ => yields_organization 100 .blank record.organization) fun found same => by
      obtain rfl := Except.ok.inj (eq_ok_of_fitting same)
      exact device
  rw [fitting_bind, ok_bind] at organization
  have layout : record.encode = (if record.organization = "" then [] else
        writeField 1 (textBytes record.organization)) ++
      ((if record.device = "" then [] else writeField 2 (textBytes record.device)) ++
        (writeField 3 (writeStamp record.occurredAt) ++
          (writeField 4 (writeStamp record.processedAt) ++
            writeField 5 (writeStruct record.data.fields)))) := by
    simp only [Record.encode, List.append_assoc]
  rw [Message.read, layout]
  exact organization.all

theorem Message.toRecord_ofRecord (record : Record) :
    (Message.ofRecord record).toRecord =
      if record.occurredAt.isRegular then
        if record.processedAt.isRegular then .ok record.asDoubles
        else .error (.noSuchInstant record.processedAt.seconds record.processedAt.nanos)
      else .error (.noSuchInstant record.occurredAt.seconds record.occurredAt.nanos) := by
  simp only [Message.toRecord, Message.ofRecord, Option.elim, ok_bind, Stamp.toInstant_ofInstant,
    Option.getD_some, ofFields_toFields_ofFields]
  split
  · split <;> rfl
  · rfl

theorem Message.toRecord_of_regular {record : Record} (regular : record.Regular) :
    (Message.ofRecord record).toRecord = .ok record.asDoubles := by
  rw [toRecord_ofRecord, if_pos regular.occurredAt, if_pos regular.processedAt]

end Wire

namespace Record

open Wire

theorem parts_le_encode (record : Record) :
    (textBytes record.organization).length ≤ record.encode.length ∧
      (textBytes record.device).length ≤ record.encode.length ∧
        (writeStruct record.data.fields).length ≤ record.encode.length := by
  have organization := length_le_label 1 record.organization
  have device := length_le_label 2 record.device
  have payload : (writeStruct record.data.fields).length ≤
      (writeField 5 (writeStruct record.data.fields)).length := length_le_writeField
  simp only [encode, List.length_append]
  omega

section RoundTrip

variable {record : Record}

theorem outcome_read_encode_of_short (short : record.encode.length < 0x10000000000000000) :
    outcome (Message.read record.encode) =
      spend record.data.nesting nestingBudget (Message.ofRecord record) := by
  obtain ⟨organization, device, payload⟩ := record.parts_le_encode
  rw [outcome_read_encode, fitting_of_lt (by omega), fitting_of_lt (by omega),
    fitting_of_lt (by omega)]

theorem decode_encode_of_shallow (short : record.encode.length < 0x10000000000000000)
    (shallow : record.data.nesting ≤ nestingBudget) :
    decode record.encode = (Message.ofRecord record).toRecord := by
  have read := outcome_read_encode_of_short short
  rw [spend, if_pos shallow] at read
  rw [decode, eq_ok_of_outcome read]

theorem decode_encode (short : record.encode.length < 0x10000000000000000)
    (shallow : record.data.nesting ≤ nestingBudget) (regular : record.Regular) :
    decode record.encode = .ok record.asDoubles := by
  rw [decode_encode_of_shallow short shallow, Message.toRecord_of_regular regular]

theorem decode_encode_of_irregular (short : record.encode.length < 0x10000000000000000)
    (shallow : record.data.nesting ≤ nestingBudget) (irregular : ¬record.Regular) :
    ∃ instant, (instant = record.occurredAt ∨ instant = record.processedAt) ∧
      decode record.encode = .error (.noSuchInstant instant.seconds instant.nanos) := by
  rw [decode_encode_of_shallow short shallow, Message.toRecord_ofRecord]
  by_cases occurred : record.occurredAt.isRegular = true
  · have processed : ¬record.processedAt.isRegular = true :=
      fun processed => irregular ⟨occurred, processed⟩
    rw [if_pos occurred, if_neg processed]
    exact ⟨_, .inr rfl, rfl⟩
  · rw [if_neg occurred]
    exact ⟨_, .inl rfl, rfl⟩

theorem decode_encode_of_deep (short : record.encode.length < 0x10000000000000000)
    (deep : nestingBudget < record.data.nesting) :
    ∃ fault : Fault, fault.reason = .tooDeep ∧
      decode record.encode = .error (.malformed fault) := by
  have read := outcome_read_encode_of_short short
  rw [spend, if_neg (Nat.not_le_of_lt deep)] at read
  obtain ⟨fault, reason, failed⟩ := eq_error_of_outcome read
  refine ⟨fault, reason, ?_⟩
  rw [decode, failed]

/-- Whatever comes back is the record with the numbers of its payload as doubles. -/
theorem eq_asDoubles_of_decode_encode {found : Record}
    (decoded : decode record.encode = .ok found) : found = record.asDoubles := by
  have read := outcome_read_encode record
  rw [decode] at decoded
  cases result : Message.read record.encode with
  | error fault =>
      rw [result] at decoded
      cases decoded
  | ok message =>
      rw [result, outcome_ok] at read
      have paid := eq_ok_of_fitting (eq_ok_of_fitting (eq_ok_of_fitting read.symm))
      rw [result, ← eq_of_spend paid] at decoded
      have converted := decoded.symm.trans (Message.toRecord_ofRecord record)
      split at converted
      · split at converted
        · exact Except.ok.inj converted
        · cases converted
      · cases converted

end RoundTrip

end Record
end Telemetry
