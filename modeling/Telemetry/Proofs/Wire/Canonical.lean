import Telemetry.Proofs.Sending
import Telemetry.Proofs.Wire.Record
import Telemetry.Proofs.Wire.Slot

/-!
# Decoding makes records canonical

Whatever bytes are decoded, the record that they make comes back from its own encoding.  One lemma
for each kind of message says what reading one of its fields keeps, and by induction on the budget
everything that is read fits into it and takes no more bytes to write than were read.  So nothing
stands in the way of reading it again.
-/

namespace Telemetry
namespace Wire

namespace Slot

section Readers

variable {budget : Nat}

theorem keeps_kind (entries : ∀ left, budget = left + 1 →
      Keeps (readStructField left) structSize (FitEntries left))
    (items : ∀ left, budget = left + 1 → Keeps (readListField left) listSize (FitItems left)) :
    Keeps (readKind budget) size (Fits budget 0) := by
  intro slot fits input
  rw [readKind]
  refine Covers.bind covers_key ?_ input
  rintro ⟨tag, wireType⟩ -
  dsimp only
  obtain _ | _ | _ | _ | _ | _ | _ | tag := tag
  · exact (shrinks_skipField budget _ _).covers fits (Nat.le_succ _)
  · refine Covers.within .kind (covers_number.map (fun _ => .null) (fun _ _ => rfl)
      (fun _ _ => fits_null) fun _ => ?_)
    rw [size_null]
    omega
  · refine Covers.within .kind (covers_fixed64.map (fun bits => .number ⟨UInt64.ofNat bits⟩)
      (fun _ _ => rfl) (fun _ _ => fits_number _) fun bits => ?_)
    have short := size_number_le ⟨UInt64.ofNat bits⟩
    omega
  · refine Covers.within .kind (covers_text.map .text (fun _ _ => rfl)
      (fun content _ => fits_text content) fun content => ?_)
    rw [size_text]
    omega
  · refine Covers.within .kind (covers_number.map (fun value => .flag (value != 0))
      (fun _ _ => rfl) (fun _ _ => fits_flag _) fun _ => ?_)
    rw [size_flag]
    omega
  · refine Covers.within .kind (Covers.expect ?_)
    cases budget with
    | zero => exact covers_error _
    | succ left =>
        have merged : Covers (readMessage (readStructField left) slot.entries) (slot.size + 1)
            (fun entries => (Slot.struct entries).size) (FitEntries left) :=
          (entries left rfl).message fits.entries fun _ _ => size_struct_le
        exact merged.map .struct (fun _ _ => rfl) (fun _ => fits_struct_iff.mpr)
          fun _ => Nat.le_refl _
  · refine Covers.within .kind (Covers.expect ?_)
    cases budget with
    | zero => exact covers_error _
    | succ left =>
        have merged : Covers (readMessage (readListField left) slot.items) (slot.size + 1)
            (fun items => (Slot.list items).size) (FitItems left) :=
          (items left rfl).message fits.items fun _ _ => size_list_le
        exact merged.map .list (fun _ _ => rfl) (fun _ => fits_list_iff.mpr)
          fun _ => Nat.le_refl _
  · exact (shrinks_skipField budget _ _).covers fits (Nat.le_succ _)

theorem keeps_entryField (kind : ∀ left, budget = left + 1 →
      Keeps (readKind left) size (Fits left 0)) :
    Keeps (readEntryField budget) entrySize fun entry => entry.2.Fits budget 1 := by
  intro entry fits input
  rw [readEntryField]
  refine Covers.bind covers_key ?_ input
  rintro ⟨tag, wireType⟩ -
  dsimp only
  obtain _ | _ | _ | tag := tag
  · exact (shrinks_skipField budget _ _).covers fits (Nat.le_succ _)
  · refine covers_text.map (fun name => (name, entry.2)) (fun _ _ => rfl) (fun _ _ => fits)
      fun name => ?_
    have label := length_label_le name
    simp only [entrySize]
    omega
  · refine Covers.expect ?_
    cases budget with
    | zero => exact covers_error _
    | succ left =>
        have merged : Covers (readMessage (readKind left) entry.2) (entrySize entry + 1)
            (fun slot => entrySize (entry.1, slot)) (Fits left 0) :=
          (kind left rfl).message (fits_succ_iff.mp fits) fun found length grown => by
            have added := fieldSize_le_add grown
            simp only [entrySize]
            omega
        exact merged.map (fun slot => (entry.1, slot)) (fun _ _ => rfl)
          (fun _ => fits_succ_iff.mpr) fun _ => Nat.le_refl _
  · exact (shrinks_skipField budget _ _).covers fits (Nat.le_succ _)

theorem keeps_structField (entry : ∀ left, budget = left + 1 →
      Keeps (readEntryField left) entrySize fun entry => entry.2.Fits left 1) :
    Keeps (readStructField budget) structSize (FitEntries budget) := by
  intro entries fits input
  rw [readStructField]
  refine Covers.bind covers_key ?_ input
  rintro ⟨tag, wireType⟩ -
  dsimp only
  by_cases known : tag = 1
  · simp only [if_pos known]
    refine Covers.within .entry ?_
    cases budget with
    | zero => exact covers_error _
    | succ left =>
        have inserted : Covers (readMessage (readEntryField left) ("", .unset))
            (structSize entries + 1)
            (fun entry => structSize (Keyed.insert entry.1 entry.2 entries))
            (fun entry => entry.2.Fits left 1) :=
          (entry left rfl).message fits_unset fun found length grown => by
            obtain ⟨name, slot⟩ := found
            have added := structSize_insert_le name slot entries
            have blank : entrySize ("", .unset) = 0 := by decide
            have field : memberSize (name, slot) ≤ 1 + delimitedSize length :=
              memberSize_le (by omega)
            dsimp only
            omega
        exact inserted.map (fun entry => Keyed.insert entry.1 entry.2 entries) (fun _ _ => rfl)
          (fun _ fit => fits.insert (fits_succ_iff.mpr fit)) fun _ => Nat.le_refl _
  · simp only [if_neg known]
    exact (shrinks_skipField budget _ _).covers fits (Nat.le_succ _)

theorem keeps_listField (kind : ∀ left, budget = left + 1 →
      Keeps (readKind left) size (Fits left 0)) :
    Keeps (readListField budget) listSize (FitItems budget) := by
  intro items fits input
  rw [readListField]
  refine Covers.bind covers_key ?_ input
  rintro ⟨tag, wireType⟩ -
  dsimp only
  by_cases known : tag = 1
  · simp only [if_pos known]
    refine Covers.within .item (Covers.expect ?_)
    cases budget with
    | zero => exact covers_error _
    | succ left =>
        have added : Covers (readMessage (readKind left) .unset) (listSize items + 1)
            (fun slot => listSize (items ++ [slot])) (Fits left 0) :=
          (kind left rfl).message fits_unset fun found length grown => by
            have field := fieldSize_le_add grown
            have blank : fieldSize .unset = 0 := by decide
            rw [listSize_concat]
            omega
        exact added.map (fun slot => items ++ [slot]) (fun _ _ => rfl)
          (fun _ fit => fits.concat (fits_succ_iff.mpr fit)) fun _ => Nat.le_refl _
  · simp only [if_neg known]
    exact (shrinks_skipField budget _ _).covers fits (Nat.le_succ _)

/-- What reading the fields of a slot's messages keeps, at one budget. -/
structure ReadersKeep (budget : Nat) : Prop where
  kind : Keeps (readKind budget) size (Fits budget 0)
  entry : Keeps (readEntryField budget) entrySize fun entry => entry.2.Fits budget 1
  struct : Keeps (readStructField budget) structSize (FitEntries budget)
  list : Keeps (readListField budget) listSize (FitItems budget)

/-- Every budget but zero leaves a smaller one for the messages within. -/
theorem readersKeep (budget : Nat) : ReadersKeep budget := by
  induction budget with
  | zero =>
      exact ⟨keeps_kind nofun nofun, keeps_entryField nofun, keeps_structField nofun,
        keeps_listField nofun⟩
  | succ budget ih =>
      exact
        { kind := keeps_kind (fun | _, rfl => ih.struct) fun | _, rfl => ih.list
          entry := keeps_entryField fun | _, rfl => ih.kind
          struct := keeps_structField fun | _, rfl => ih.entry
          list := keeps_listField fun | _, rfl => ih.kind }

end Readers

end Slot

section Messages

variable {budget : Nat}

theorem keeps_stampField : Keeps (readStampField budget) (fun _ => 0) fun _ => True := by
  intro stamp _ input
  rw [readStampField]
  refine Covers.bind covers_key ?_ input
  rintro ⟨tag, wireType⟩ -
  dsimp only
  obtain _ | _ | _ | tag := tag
  · exact (shrinks_skipField budget _ _).covers trivial (Nat.zero_le _)
  · exact Covers.within .seconds (covers_number.map
      (fun value => { stamp with seconds := signedBits 64 value }) (fun _ _ => rfl)
      (fun _ _ => trivial) fun _ => Nat.zero_le _)
  · exact Covers.within .nanos (covers_number.map
      (fun value => { stamp with nanos := signedBits 32 value }) (fun _ _ => rfl)
      (fun _ _ => trivial) fun _ => Nat.zero_le _)
  · exact (shrinks_skipField budget _ _).covers trivial (Nat.zero_le _)

theorem covers_stamp (before : Nat) (present : Option Stamp) (wireType : WireType) :
    Covers (readStamp budget present wireType) before (fun _ => before) fun _ => True := by
  cases budget with
  | zero => exact Covers.expect (covers_error _)
  | succ left =>
      exact Covers.expect (keeps_stampField.message trivial fun _ _ _ => Nat.le_add_right _ _)

/-- The bytes that the parts of a message take which may be long. -/
def Message.size (message : Message) : Nat :=
  (textBytes message.organization).length + (textBytes message.device).length +
    Slot.structSize (message.data.getD [])

theorem keeps_messageField :
    Keeps (Message.readField (budget + 1)) Message.size
      fun message => Slot.FitEntries budget (message.data.getD []) := by
  intro message fits input
  rw [Message.readField]
  refine Covers.bind covers_key ?_ input
  rintro ⟨tag, wireType⟩ -
  dsimp only
  obtain _ | _ | _ | _ | _ | _ | tag := tag
  · exact (shrinks_skipField _ _ _).covers fits (Nat.le_succ _)
  · refine Covers.within .organization (covers_text.map
      (fun organization => { message with organization }) (fun _ _ => rfl) (fun _ _ => fits)
      fun organization => ?_)
    simp only [Message.size, delimitedSize]
    omega
  · refine Covers.within .device (covers_text.map
      (fun device => { message with device }) (fun _ _ => rfl) (fun _ _ => fits)
      fun device => ?_)
    simp only [Message.size, delimitedSize]
    omega
  · exact Covers.within .occurredAt ((covers_stamp _ _ _).map
      (fun stamp => { message with occurredAt := some stamp }) (fun _ _ => rfl)
      (fun _ _ => fits) fun _ => Nat.le_succ _)
  · exact Covers.within .processedAt ((covers_stamp _ _ _).map
      (fun stamp => { message with processedAt := some stamp }) (fun _ _ => rfl)
      (fun _ _ => fits) fun _ => Nat.le_succ _)
  · have merged : Covers (readPayload (budget + 1) message.data wireType) (message.size + 1)
        (fun entries => { message with data := some entries }.size)
        (Slot.FitEntries budget) := by
      refine Covers.expect ?_
      refine (Slot.readersKeep budget).struct.message fits fun found length grown => ?_
      simp only [Message.size, Option.getD_some, delimitedSize] at *
      omega
    exact Covers.within .data (merged.map (fun entries => { message with data := some entries })
      (fun _ _ => rfl) (fun _ fit => fit) fun _ => Nat.le_refl _)
  · exact (shrinks_skipField _ _ _).covers fits (Nat.le_succ _)

theorem fits_of_read {input : Bytes} {message : Message} (read : Message.read input = .ok message) :
    Slot.FitEntries (nestingBudget - 1) (message.data.getD []) ∧ message.size ≤ input.length := by
  obtain ⟨fits, short⟩ := keeps_messageField.all Slot.fitEntries_nil read
  have blank : Message.blank.size = 0 := by decide
  exact ⟨fits, by omega⟩

theorem fields_ofFields_toFields {entries : List (String × Slot)}
    (fits : Slot.FitEntries budget entries) :
    (Document.ofFields (Slot.toFields entries)).fields = Slot.toFields entries := by
  have ordered := (Slot.canonical_toFields entries fun entry member =>
    (fits.inner entry member).ordered).1
  have same := Keyed.ofEntries_of_ascending (Slot.ascending_toFields fits.ascending)
  rw [← Value.sortedFields_of_ordered _ ordered] at same
  exact same.trans (Value.sortedFields_of_ordered _ ordered)

end Messages

end Wire

namespace Record

open Wire

variable {bytes : Bytes} {record : Record}

theorem exists_read_of_decode (decoded : decode bytes = .ok record) :
    ∃ message, Message.read bytes = .ok message ∧
      record.organization = message.organization ∧ record.device = message.device ∧
      record.data = Document.ofFields (Slot.toFields (message.data.getD [])) ∧ record.Regular := by
  rw [decode] at decoded
  split at decoded
  · cases decoded
  · rename_i message read
    obtain ⟨_, -, decoded⟩ := exists_of_bind_eq_ok decoded
    obtain ⟨occurredAt, occurred, decoded⟩ := exists_of_bind_eq_ok decoded
    obtain ⟨_, -, decoded⟩ := exists_of_bind_eq_ok decoded
    obtain ⟨processedAt, processed, decoded⟩ := exists_of_bind_eq_ok decoded
    cases decoded
    exact ⟨message, read, rfl, rfl, rfl, Stamp.isRegular_of_toInstant occurred,
      Stamp.isRegular_of_toInstant processed⟩

/-- A decoded record fits the budget, its times are regular and its numbers are doubles. -/
theorem canonical_of_decode (decoded : decode bytes = .ok record) :
    record.data.nesting ≤ nestingBudget ∧ record.Regular ∧ record.asDoubles = record ∧
      (textBytes record.organization).length ≤ bytes.length ∧
      (textBytes record.device).length ≤ bytes.length ∧
      (writeStruct record.data.fields).length ≤ bytes.length := by
  obtain ⟨message, read, organization, device, data, regular⟩ := exists_read_of_decode decoded
  obtain ⟨fits, short⟩ := fits_of_read read
  have fields := fields_ofFields_toFields fits
  have doubles := (Slot.canonical_toFields (message.data.getD []) fun entry member =>
    (fits.inner entry member).ordered).2
  rw [← data] at fields
  rw [Message.size, Slot.structSize, ← organization, ← device, ← fields] at short
  refine ⟨?_, regular, ?_, by omega, by omega, by omega⟩
  · rw [Document.nesting, Value.nesting, fields]
    have enough := Slot.nestingFields_le_iff.mpr fun entry member =>
      (fits.inner entry member).nesting
    simp only [nestingBudget] at *
    omega
  · rw [← fields] at doubles
    simp only [asDoubles, Document.asDoubles, doubles]

/-- Whatever bytes are decoded, the record that they make is decoded from its own encoding. -/
theorem decode_encode_of_decode (short : bytes.length < 0x10000000000000000)
    (decoded : decode bytes = .ok record) :
    decode record.encode = .ok record ∧
      (decode record.encode).map encode = .ok record.encode := by
  obtain ⟨shallow, regular, doubles, organization, device, data⟩ := canonical_of_decode decoded
  have read := outcome_read_encode record
  rw [fitting_of_lt (by omega), fitting_of_lt (by omega), fitting_of_lt (by omega), spend,
    if_pos shallow] at read
  have again : decode record.encode = .ok record := by
    rw [decode, eq_ok_of_outcome read]
    exact (Message.toRecord_of_regular regular).trans (congrArg Except.ok doubles)
  exact ⟨again, by rw [again]; rfl⟩

section Example

/-- Bytes with a struct in pieces, replaced texts, unknown fields and values without a kind. -/
def looseBytes : Bytes :=
  [42, 16, 10, 14, 10, 1, 97, 18, 9, 17, 0, 0, 0, 0, 0, 0, 248, 127, 59, 8, 1, 60, 10, 1, 120,
    10, 1, 111, 26, 4, 8, 133, 128, 0, 26, 2, 16, 7, 42, 48, 10, 16, 18, 11, 42, 9, 10, 7, 10, 1,
    113, 18, 2, 8, 0, 10, 1, 97, 10, 5, 10, 1, 98, 18, 0, 10, 21, 10, 1, 98, 18, 8, 50, 6, 10, 0,
    10, 2, 32, 2, 18, 6, 50, 4, 10, 2, 26, 0, 34, 2, 8, 9]

def looseRecord : Record where
  organization := "o"
  device := ""
  occurredAt := ⟨5, 7, by decide⟩
  processedAt := ⟨9, 0, by decide⟩
  data := ⟨[("a", .object [("q", .null)]), ("b", .list [.bool true, .text ""])], by decide +kernel⟩

theorem decode_looseBytes : decode looseBytes = .ok looseRecord :=
  eq_ok_of_toOption (by decide +kernel)

/-- The record is written in fewer bytes, and these make it as well. -/
theorem loose_record_comes_back :
    decode looseBytes = .ok looseRecord ∧ looseRecord.encode.length < looseBytes.length ∧
      decode looseRecord.encode = .ok looseRecord :=
  ⟨decode_looseBytes, by decide +kernel,
    (decode_encode_of_decode (by decide) decode_looseBytes).1⟩

end Example

end Record
end Telemetry
