import Telemetry.Document
import Telemetry.Wire.Field

/-!
# Payloads on the wire

A document travels as a struct whose values are slots; a slot may be unset, and every number is a
double.  Reading merges: an entry replaces an earlier one of its name, and a struct or list that
comes in pieces is put together.  Every message and every entry spends one unit of the budget.
-/

namespace Telemetry
namespace Wire

/-- A value as it travels. -/
inductive Slot where
  | unset
  | null
  | number (value : Double)
  | text (content : String)
  | flag (value : Bool)
  | struct (entries : List (String × Slot))
  | list (items : List Slot)
  deriving Repr

/-- The nesting that a message may have. -/
def nestingBudget : Nat := 100

namespace Slot

/-- What a struct field adds to a slot: it merges with the struct that is there. -/
def entries : Slot → List (String × Slot)
  | .struct entries => entries
  | _ => []

/-- What a list field adds to a slot: it merges with the list that is there. -/
def items : Slot → List Slot
  | .list items => items
  | _ => []

mutual

/-- Read one field of a struct. -/
def readStructField (budget : Nat) (entries : List (String × Slot)) (input : Bytes) :
    Except Fault (List (String × Slot) × Bytes) := do
  let (key, rest) ← readKey input
  if key.tag = 1 then
    within .entry <|
      match budget with
      | 0 => .error (.of .tooDeep)
      | budget + 1 => do
          let ((name, slot), rest) ← readMessage (readEntryField budget) ("", .unset) rest
          .ok (Keyed.insert name slot entries, rest)
  else do
    let rest ← skipField budget key.wireType key.tag rest
    .ok (entries, rest)

/-- Read one field of an entry: its name or its value. -/
def readEntryField (budget : Nat) (entry : String × Slot) (input : Bytes) :
    Except Fault ((String × Slot) × Bytes) := do
  let (key, rest) ← readKey input
  match key.tag with
  | 1 => do
      let (name, rest) ← readText key.wireType rest
      .ok ((name, entry.2), rest)
  | 2 => do
      expect .delimited key.wireType
      match budget with
      | 0 => .error (.of .tooDeep)
      | budget + 1 => do
          let (slot, rest) ← readMessage (readKind budget) entry.2 rest
          .ok ((entry.1, slot), rest)
  | tag => do
      let rest ← skipField budget key.wireType tag rest
      .ok (entry, rest)

/-- Read one field of a value: whichever kind comes last is its kind. -/
def readKind (budget : Nat) (slot : Slot) (input : Bytes) : Except Fault (Slot × Bytes) := do
  let (key, rest) ← readKey input
  match key.tag with
  | 1 => within .kind do
      let (_, rest) ← readNumber key.wireType rest
      .ok (.null, rest)
  | 2 => within .kind do
      let (bits, rest) ← readFixed64 key.wireType rest
      .ok (.number ⟨UInt64.ofNat bits⟩, rest)
  | 3 => within .kind do
      let (content, rest) ← readText key.wireType rest
      .ok (.text content, rest)
  | 4 => within .kind do
      let (value, rest) ← readNumber key.wireType rest
      .ok (.flag (value != 0), rest)
  | 5 => within .kind do
      expect .delimited key.wireType
      match budget with
      | 0 => .error (.of .tooDeep)
      | budget + 1 => do
          let (entries, rest) ← readMessage (readStructField budget) slot.entries rest
          .ok (.struct entries, rest)
  | 6 => within .kind do
      expect .delimited key.wireType
      match budget with
      | 0 => .error (.of .tooDeep)
      | budget + 1 => do
          let (items, rest) ← readMessage (readListField budget) slot.items rest
          .ok (.list items, rest)
  | tag => do
      let rest ← skipField budget key.wireType tag rest
      .ok (slot, rest)

/-- Read one field of a list. -/
def readListField (budget : Nat) (items : List Slot) (input : Bytes) :
    Except Fault (List Slot × Bytes) := do
  let (key, rest) ← readKey input
  if key.tag = 1 then
    within .item do
      expect .delimited key.wireType
      match budget with
      | 0 => .error (.of .tooDeep)
      | budget + 1 => do
          let (slot, rest) ← readMessage (readKind budget) .unset rest
          .ok (items ++ [slot], rest)
  else do
    let rest ← skipField budget key.wireType key.tag rest
    .ok (items, rest)

end

mutual

/-- The document value of a slot: an unset one has none, and a number that is not finite is null. -/
def toValue? : Slot → Option Value
  | .unset => none
  | .null => some .null
  | .number value =>
      some (match Number.ofDouble? value with
        | some finite => .number finite
        | none => .null)
  | .text content => some (.text content)
  | .flag value => some (.bool value)
  | .struct entries => some (.object (toFields entries))
  | .list items => some (.list (toItems items))

/-- The fields of a struct, without the unset ones. -/
def toFields : List (String × Slot) → List (String × Value)
  | [] => []
  | (name, slot) :: rest =>
      match slot.toValue? with
      | some value => (name, value) :: toFields rest
      | none => toFields rest

/-- The items of a list, without the unset ones. -/
def toItems : List Slot → List Value
  | [] => []
  | slot :: rest =>
      match slot.toValue? with
      | some value => value :: toItems rest
      | none => toItems rest

end

end Slot

/-- Write a delimited field. -/
def writeField (tag : Nat) (content : Bytes) : Bytes :=
  writeKey tag .delimited ++ writeDelimited content

mutual

/-- The message of a document value. -/
def writeValue : Value → Bytes
  | .null => writeKey 1 .varint ++ writeVarint 0
  | .number value => writeKey 2 .fixed64 ++ writeFixed64 value.toDouble.bits.toNat
  | .text content => writeField 3 (textBytes content)
  | .bool flag => writeKey 4 .varint ++ writeVarint flag.toNat
  | .object fields => writeField 5 (writeStruct fields)
  | .list items => writeField 6 (writeList items)

/-- The message of a struct: an entry for every field; an empty name is left out. -/
def writeStruct : List (String × Value) → Bytes
  | [] => []
  | (name, value) :: rest =>
      let label := if name = "" then [] else writeField 1 (textBytes name)
      writeField 1 (label ++ writeField 2 (writeValue value)) ++ writeStruct rest

/-- The message of a list: a value for every item. -/
def writeList : List Value → Bytes
  | [] => []
  | item :: rest => writeField 1 (writeValue item) ++ writeList rest

end

end Wire
end Telemetry
