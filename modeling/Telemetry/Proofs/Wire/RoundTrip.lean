import Mathlib.Data.List.Forall2
import Telemetry.Proofs.Nearest
import Telemetry.Proofs.Wire.Record

/-!
# The round trip of a record

A record that travels comes back with every integer of its payload as the double nearest to it and
with everything else as it was, as long as its payload is not nested too deeply and its times can be
looked up by their parts.  A leap second is written whatever its second, and only those that end a
minute are found again.
-/

namespace Telemetry

/-- What a number comes back as: a double as itself, and an integer as the double nearest to it. -/
def Number.Rounds : Number → Number → Prop
  | .integer exact _, .double found _ => found.IsNearest exact
  | .double value _, .double found _ => found = value
  | _, .integer _ _ => False

/-- What a value comes back as: the same in the same places, with numbers rounded. -/
inductive Value.Rounds : Value → Value → Prop
  | null : Rounds .null .null
  | bool (flag : Bool) : Rounds (.bool flag) (.bool flag)
  | number {number found : Number} (rounded : number.Rounds found) :
      Rounds (.number number) (.number found)
  | text (content : String) : Rounds (.text content) (.text content)
  | list {items found : List Value} (each : List.Forall₂ Rounds items found) :
      Rounds (.list items) (.list found)
  | object {fields found : List (String × Value)}
      (names : found.map Prod.fst = fields.map Prod.fst)
      (each : List.Forall₂ Rounds (fields.map Prod.snd) (found.map Prod.snd)) :
      Rounds (.object fields) (.object found)

/-- What a record comes back as. -/
structure Record.Rounds (record found : Record) : Prop where
  organization : found.organization = record.organization
  device : found.device = record.device
  occurredAt : found.occurredAt = record.occurredAt
  processedAt : found.processedAt = record.processedAt
  data : Value.Rounds (.object record.data.fields) (.object found.data.fields)

theorem Number.rounds_asDouble (number : Number) : number.Rounds number.asDouble := by
  cases number with
  | integer exact fits =>
      have bound : (1 <<< 64 : Nat) = 0x10000000000000000 := by decide
      exact Double.isNearest_ofInt (by omega)
  | double value finite => rfl

namespace Value

mutual

theorem rounds_asDoubles : (value : Value) → value.Rounds value.asDoubles
  | .null => .null
  | .bool flag => .bool flag
  | .number value => .number value.rounds_asDouble
  | .text content => .text content
  | .list items => .list (rounds_asDoublesItems items)
  | .object fields => .object (by simp [asDoublesFields_eq_map]) (rounds_asDoublesFields fields)

theorem rounds_asDoublesItems : (items : List Value) →
    List.Forall₂ Rounds items (asDoublesItems items)
  | [] => .nil
  | item :: rest => .cons (rounds_asDoubles item) (rounds_asDoublesItems rest)

theorem rounds_asDoublesFields : (fields : List (String × Value)) →
    List.Forall₂ Rounds (fields.map Prod.snd) ((asDoublesFields fields).map Prod.snd)
  | [] => .nil
  | (_, value) :: rest => .cons (rounds_asDoubles value) (rounds_asDoublesFields rest)

end

end Value

theorem Record.rounds_asDoubles (record : Record) : record.Rounds record.asDoubles :=
  ⟨rfl, rfl, rfl, rfl, Value.rounds_asDoubles (.object record.data.fields)⟩

/-- The fields of a fault as its wording begins with them. -/
def Wire.Fault.path (fault : Fault) : String :=
  String.join (fault.places.map fun place => place.name ++ ": ")

theorem Wire.Fault.message_eq (fault : Fault) :
    fault.message = fault.path ++ fault.reason.message := by
  rw [message, path]
  induction fault.places with
  | nil => simp
  | cons place rest ih =>
      rw [List.foldr_cons, ih, List.map_cons, String.join_cons]
      simp only [String.append_assoc]

theorem Undecodable.message_of_tooDeep {fault : Wire.Fault} (reason : fault.reason = .tooDeep) :
    (Undecodable.malformed fault).message =
      "Failed to decode ProcessedEnvelope protobuf: failed to decode Protobuf message: " ++
        (fault.path ++ "recursion limit reached") := by
  have wording : fault.message = fault.path ++ "recursion limit reached" := by
    rw [fault.message_eq, reason]
    rfl
  rw [← wording]
  rfl

namespace Record

open Wire

/-- A record comes back exactly when it is shallow and its times are regular. -/
theorem comes_back_iff_carried (record : Record) :
    (∀ found, decode record.encode = .ok found → record.Rounds found) ∧
      (record.encode.length < 0x10000000000000000 →
        (record.data.nesting ≤ nestingBudget →
          (record.Regular → ∃ found, decode record.encode = .ok found ∧ record.Rounds found) ∧
          (record.occurredAt.isRegular = false → decode record.encode =
            .error (.noSuchInstant record.occurredAt.seconds record.occurredAt.nanos)) ∧
          (record.occurredAt.isRegular = true → record.processedAt.isRegular = false →
            decode record.encode =
              .error (.noSuchInstant record.processedAt.seconds record.processedAt.nanos))) ∧
        (nestingBudget < record.data.nesting →
          ∃ fault, decode record.encode = .error (.malformed fault) ∧ fault.reason = .tooDeep ∧
            (Undecodable.malformed fault).message =
              "Failed to decode ProcessedEnvelope protobuf: failed to decode Protobuf message: " ++
                (fault.path ++ "recursion limit reached"))) := by
  refine ⟨?_, fun short => ⟨fun shallow => ⟨fun regular => ?_, fun occurred => ?_,
    fun occurred processed => ?_⟩, fun deep => ?_⟩⟩
  · intro found decoded
    rw [eq_asDoubles_of_decode_encode decoded]
    exact record.rounds_asDoubles
  · exact ⟨record.asDoubles, decode_encode short shallow regular, record.rounds_asDoubles⟩
  · rw [decode_encode_of_shallow short shallow, Message.toRecord_ofRecord, occurred]
    rfl
  · rw [decode_encode_of_shallow short shallow, Message.toRecord_ofRecord, occurred, processed]
    rfl
  · obtain ⟨fault, reason, failed⟩ := decode_encode_of_deep short deep
    exact ⟨fault, failed, reason, Undecodable.message_of_tooDeep reason⟩

section Nested

/-- Lists within each other, as many as the depth says, around a value. -/
def listsAround (core : Value) : Nat → Value
  | 0 => core
  | depth + 1 => .list [listsAround core depth]

/-- A record with an integer between two doubles and a value within forty-eight lists. -/
def nestedRecord (occurredAt : Instant) (core : Value)
    (inOrder : (Value.object [("", .number (.integer 9007199254740993 (by decide))),
      ("a", listsAround core 48)]).ordered = true) : Record where
  organization := "o"
  device := ""
  occurredAt
  processedAt := ⟨-1, 999999999, by decide⟩
  data := ⟨_, inOrder⟩

/-- The middle of the leap second at the end of the year 2016. -/
def endOfMinute : Instant := ⟨1483228799, 1500000000, by decide⟩

/-- A third into a leap second of which no minute ends. -/
def withinMinute : Instant := ⟨86164, 1333333333, by decide⟩

/-- A list within the lists comes back; an item or an odd leap second does not. -/
theorem forty_nine_lists_come_back :
    ((nestedRecord endOfMinute (.list []) (by decide +kernel)).data.nesting = nestingBudget ∧
      ∃ found, decode (nestedRecord endOfMinute (.list []) (by decide +kernel)).encode = .ok found ∧
        (nestedRecord endOfMinute (.list []) (by decide +kernel)).Rounds found) ∧
    ((nestedRecord endOfMinute (.list [.null]) (by decide +kernel)).data.nesting =
        nestingBudget + 1 ∧
      ∃ fault, decode (nestedRecord endOfMinute (.list [.null]) (by decide +kernel)).encode =
        .error (.malformed fault) ∧ fault.reason = .tooDeep) ∧
    decode (nestedRecord withinMinute (.list []) (by decide +kernel)).encode =
      .error (.noSuchInstant 86164 1333333333) := by
  refine ⟨⟨by decide +kernel, ?_⟩, ⟨by decide +kernel, ?_⟩, ?_⟩
  · exact (((comes_back_iff_carried _).2 (by decide +kernel)).1 (by decide +kernel)).1
      (by decide +kernel)
  · obtain ⟨fault, failed, reason, _⟩ :=
      ((comes_back_iff_carried (nestedRecord endOfMinute (.list [.null]) (by decide +kernel))).2
        (by decide +kernel)).2 (by decide +kernel)
    exact ⟨fault, failed, reason⟩
  · exact (((comes_back_iff_carried _).2 (by decide +kernel)).1 (by decide +kernel)).2.1
      (by decide +kernel)

/-- A flat record whose event lies within a leap second that ends no minute. -/
def flatRecord : Record where
  organization := "org-1"
  device := "device-1"
  occurredAt := withinMinute
  processedAt := ⟨1735732920, 0, by decide⟩
  data := ⟨[("status", .text "ok")], by decide⟩

/-- The flat record is written, but its bytes are not read. -/
theorem flat_record_not_read :
    flatRecord.data.nesting ≤ nestingBudget ∧
      flatRecord.encode = [10, 5, 111, 114, 103, 45, 49, 18, 8, 100, 101, 118, 105, 99, 101, 45, 49,
        26, 10, 8, 148, 161, 5, 16, 213, 154, 228, 251, 4, 34, 6, 8, 184, 221, 212, 187, 6, 42, 16,
        10, 14, 10, 6, 115, 116, 97, 116, 117, 115, 18, 4, 26, 2, 111, 107] ∧
      decode flatRecord.encode = .error (.noSuchInstant 86164 1333333333) := by
  have shallow : flatRecord.data.nesting ≤ nestingBudget := by decide +kernel
  refine ⟨shallow, by decide +kernel, ?_⟩
  rw [decode_encode_of_shallow (by decide +kernel) shallow, Message.toRecord_ofRecord]
  rfl

end Nested

end Record
end Telemetry
