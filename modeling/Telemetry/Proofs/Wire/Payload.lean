import Telemetry.Proofs.Conversion
import Telemetry.Proofs.Wire.Fields
import Telemetry.Wire.Payload

/-!
# Reading payloads back

A value that was written is read back as the slot that `Slot.ofValue` makes of it, if the budget
covers its nesting, and is too deep otherwise.  The induction follows the value: its atoms are read
at once, and a struct or a list is read entry by entry into what is already there.
-/

namespace Telemetry
namespace Wire

namespace Slot

mutual

/-- The slot that a value is read back as. -/
def ofValue : Value → Slot
  | .null => .null
  | .bool value => .flag value
  | .number value => .number value.toDouble
  | .text content => .text content
  | .list items => .list (ofItems items)
  | .object fields => .struct (Keyed.ofEntries (ofFields fields))

def ofItems : List Value → List Slot
  | [] => []
  | item :: rest => ofValue item :: ofItems rest

def ofFields : List (String × Value) → List (String × Slot)
  | [] => []
  | (name, value) :: rest => (name, ofValue value) :: ofFields rest

end

end Slot

section Lengths

variable {tag : Nat} {content : Bytes}

theorem writeGroups_ne_nil (room value : Nat) : writeGroups (room + 1) value ≠ [] := by
  rw [writeGroups]
  split <;> simp

theorem writeField_ne_nil : writeField tag content ≠ [] := by
  have key : writeKey tag .delimited ≠ [] := writeGroups_ne_nil 9 _
  simp [writeField, key]

theorem length_le_writeField : content.length ≤ (writeField tag content).length := by
  simp only [writeField, writeDelimited, List.length_append]
  omega

theorem length_le_label (tag : Nat) (name : String) :
    (textBytes name).length ≤
      (if name = "" then [] else writeField tag (textBytes name)).length := by
  split
  · rename_i empty
    subst empty
    exact Nat.le_refl 0
  · exact length_le_writeField

end Lengths

section Kinds

variable {budget : Nat} {slot : Slot}

theorem yields_null : Yields (Slot.readKind budget slot) (writeValue .null) (.ok .null) := by
  intro rest
  rw [Slot.readKind]
  refine Yields.bind (yields_key .varint (by decide) (by decide)) ?_ rest
  refine Yields.within .kind ?_
  exact (yields_number (by decide)).map (fun _ => Slot.null) fun _ _ => rfl

theorem yields_double (value : Number) :
    Yields (Slot.readKind budget slot) (writeValue (.number value))
      (.ok (.number value.toDouble)) := by
  intro rest
  rw [Slot.readKind]
  refine Yields.bind (yields_key .fixed64 (by decide) (by decide)) ?_ rest
  refine Yields.within .kind ?_
  refine (yields_fixed64 value.toDouble.bits.toNat_lt).mapTo
    (fun bits => Slot.number ⟨UInt64.ofNat bits⟩) (fun _ _ => rfl) ?_
  rw [ok_bind, UInt64.ofNat_toNat]

theorem yields_content {content : String}
    (fits : (textBytes content).length < 0x10000000000000000) :
    Yields (Slot.readKind budget slot) (writeValue (.text content)) (.ok (.text content)) := by
  intro rest
  rw [Slot.readKind]
  refine Yields.bind (yields_key .delimited (by decide) (by decide)) ?_ rest
  refine Yields.within .kind ?_
  exact (yields_text fits).map Slot.text fun _ _ => rfl

theorem yields_flag (flag : Bool) :
    Yields (Slot.readKind budget slot) (writeValue (.bool flag)) (.ok (.flag flag)) := by
  have fits : flag.toNat < 0x10000000000000000 := by
    have := flag.toNat_lt
    omega
  intro rest
  rw [Slot.readKind]
  refine Yields.bind (yields_key .varint (by decide) (by decide)) ?_ rest
  refine Yields.within .kind ?_
  refine (yields_number fits).mapTo (fun value => Slot.flag (value != 0)) (fun _ _ => rfl) ?_
  cases flag <;> rfl

theorem yields_struct {content : Bytes} {cost : Nat} {entries : List (String × Slot)}
    (reads : ∀ left,
      Reads (Slot.readStructField left) slot.entries content (spend cost left entries))
    (fits : content.length < 0x10000000000000000) :
    Yields (Slot.readKind budget slot) (writeField 5 content)
      (spend (1 + cost) budget (.struct entries)) := by
  intro rest
  rw [Slot.readKind]
  refine Yields.bind (yields_key .delimited (by decide) (by decide)) ?_ rest
  refine Yields.within .kind ?_
  cases budget with
  | zero => exact fun _ => by rw [spend_unaffordable (by omega)]; rfl
  | succ left =>
      rw [spend_succ, ← spend_bind_ok cost left entries Slot.struct]
      exact ((reads left).delimited fits).map Slot.struct fun _ _ => rfl

theorem yields_list {content : Bytes} {cost : Nat} {items : List Slot}
    (reads : ∀ left, Reads (Slot.readListField left) slot.items content (spend cost left items))
    (fits : content.length < 0x10000000000000000) :
    Yields (Slot.readKind budget slot) (writeField 6 content)
      (spend (1 + cost) budget (.list items)) := by
  intro rest
  rw [Slot.readKind]
  refine Yields.bind (yields_key .delimited (by decide) (by decide)) ?_ rest
  refine Yields.within .kind ?_
  cases budget with
  | zero => exact fun _ => by rw [spend_unaffordable (by omega)]; rfl
  | succ left =>
      rw [spend_succ, ← spend_bind_ok cost left items Slot.list]
      exact ((reads left).delimited fits).map Slot.list fun _ _ => rfl

end Kinds

section Members

variable {budget cost : Nat} {content : Bytes} {slot : Slot}

theorem yields_item (items : List Slot)
    (reads : ∀ left, Reads (Slot.readKind left) .unset content (spend cost left slot))
    (fits : content.length < 0x10000000000000000) :
    Yields (Slot.readListField budget items) (writeField 1 content)
      (spend (1 + cost) budget (items ++ [slot])) := by
  intro rest
  rw [Slot.readListField]
  refine Yields.bind (yields_key .delimited (by decide) (by decide)) ?_ rest
  simp only [↓reduceIte]
  refine Yields.within .item ?_
  cases budget with
  | zero => exact fun _ => by rw [spend_unaffordable (by omega)]; rfl
  | succ left =>
      rw [spend_succ, ← spend_bind_ok cost left slot fun read => items ++ [read]]
      exact ((reads left).delimited fits).map (fun read => items ++ [read]) fun _ _ => rfl

theorem yields_name {name : String} (entry : String × Slot)
    (fits : (textBytes name).length < 0x10000000000000000) :
    Yields (Slot.readEntryField budget entry) (writeField 1 (textBytes name))
      (.ok (name, entry.2)) := by
  intro rest
  rw [Slot.readEntryField]
  refine Yields.bind (yields_key .delimited (by decide) (by decide)) ?_ rest
  exact (yields_text fits).map (fun read => (read, entry.2)) fun _ _ => rfl

theorem yields_entryValue (entry : String × Slot)
    (reads : ∀ left, Reads (Slot.readKind left) entry.2 content (spend cost left slot))
    (fits : content.length < 0x10000000000000000) :
    Yields (Slot.readEntryField budget entry) (writeField 2 content)
      (spend (1 + cost) budget (entry.1, slot)) := by
  intro rest
  rw [Slot.readEntryField]
  refine Yields.bind (yields_key .delimited (by decide) (by decide)) ?_ rest
  cases budget with
  | zero => exact fun _ => by rw [spend_unaffordable (by omega)]; rfl
  | succ left =>
      rw [spend_succ, ← spend_bind_ok cost left slot fun read => (entry.1, read)]
      exact ((reads left).delimited fits).map (fun read => (entry.1, read)) fun _ _ => rfl

theorem reads_entry (budget : Nat) (name : String)
    (label : (textBytes name).length < 0x10000000000000000)
    (reads : ∀ left, Reads (Slot.readKind left) .unset content (spend cost left slot))
    (fits : content.length < 0x10000000000000000) :
    Reads (Slot.readEntryField budget) ("", .unset)
      ((if name = "" then [] else writeField 1 (textBytes name)) ++ writeField 2 content)
      (spend (1 + cost) budget (name, slot)) := by
  refine Reads.optional (.ok (name, .unset)) (fun _ => spend (1 + cost) budget (name, slot))
    writeField_ne_nil ?_ ?_ ?_
  · rintro rfl
    rfl
  · intro _
    exact yields_name ("", .unset) label
  · rintro found ⟨⟩
    exact Reads.one writeField_ne_nil (yields_entryValue (name, .unset) reads fits)

/-- An entry costs one unit more than its value. -/
theorem yields_entry {name : String} (entries : List (String × Slot))
    (reads : ∀ left, Reads (Slot.readEntryField left) ("", .unset) content
      (spend (1 + cost) left (name, slot)))
    (fits : content.length < 0x10000000000000000) :
    Yields (Slot.readStructField budget entries) (writeField 1 content)
      (spend (2 + cost) budget (Keyed.insert name slot entries)) := by
  intro rest
  rw [Slot.readStructField]
  refine Yields.bind (yields_key .delimited (by decide) (by decide)) ?_ rest
  simp only [↓reduceIte]
  refine Yields.within .entry ?_
  cases budget with
  | zero => exact fun _ => by rw [spend_unaffordable (by omega)]; rfl
  | succ left =>
      rw [show 2 + cost = 1 + (1 + cost) by omega, spend_succ,
        ← spend_bind_ok _ left (name, slot) fun entry => Keyed.insert entry.1 entry.2 entries]
      exact ((reads left).delimited fits).map
        (fun entry => Keyed.insert entry.1 entry.2 entries) fun _ _ => rfl

end Members

theorem writeValue_ne_nil (value : Value) : writeValue value ≠ [] := by
  have key (tag : Nat) (wireType : WireType) : writeKey tag wireType ≠ [] :=
    writeGroups_ne_nil 9 _
  cases value <;> simp [writeValue, writeField_ne_nil, key]

mutual

/-- A value is read back as far as the budget covers it. -/
theorem reads_value : (value : Value) → (writeValue value).length < 0x10000000000000000 →
    (budget : Nat) → Reads (Slot.readKind budget) .unset (writeValue value)
      (spend value.nesting budget (Slot.ofValue value))
  | .null, _, _ => by
      rw [Value.nesting, spend_nothing]
      exact Reads.one (writeValue_ne_nil _) yields_null
  | .bool flag, _, _ => by
      rw [Value.nesting, spend_nothing]
      exact Reads.one (writeValue_ne_nil _) (yields_flag flag)
  | .number value, _, _ => by
      rw [Value.nesting, spend_nothing]
      exact Reads.one (writeValue_ne_nil _) (yields_double value)
  | .text content, fits, _ => by
      have shorter := Nat.lt_of_le_of_lt length_le_writeField fits
      rw [Value.nesting, spend_nothing]
      exact Reads.one (writeValue_ne_nil _) (yields_content shorter)
  | .object fields, fits, budget => by
      have shorter := Nat.lt_of_le_of_lt length_le_writeField fits
      exact Reads.one (writeValue_ne_nil _)
        (yields_struct (reads_struct fields shorter []) shorter)
  | .list items, fits, budget => by
      have shorter := Nat.lt_of_le_of_lt length_le_writeField fits
      exact Reads.one (writeValue_ne_nil _) (yields_list (reads_list items shorter []) shorter)

/-- The entries of a struct are inserted into those that are there. -/
theorem reads_struct : (fields : List (String × Value)) →
    (writeStruct fields).length < 0x10000000000000000 → (before : List (String × Slot)) →
    (budget : Nat) → Reads (Slot.readStructField budget) before (writeStruct fields)
      (spend (Value.nestingFields fields) budget
        ((Slot.ofFields fields).foldl (fun sofar entry => Keyed.insert entry.1 entry.2 sofar)
          before))
  | [], _, before, budget => by
      rw [Value.nestingFields, spend_nothing]
      exact Reads.nil
  | (name, value) :: rest, fits, before, budget => by
      let label := if name = "" then [] else writeField 1 (textBytes name)
      let entry := label ++ writeField 2 (writeValue value)
      have whole : (writeField 1 entry).length + (writeStruct rest).length <
          0x10000000000000000 := by
        rw [← List.length_append]
        exact fits
      have outer : entry.length ≤ (writeField 1 entry).length := length_le_writeField
      have parts : label.length + (writeField 2 (writeValue value)).length = entry.length :=
        List.length_append.symm
      have named : (textBytes name).length ≤ label.length := length_le_label 1 name
      have inner : (writeValue value).length ≤ (writeField 2 (writeValue value)).length :=
        length_le_writeField
      have entries := fun left =>
        reads_entry left name (by omega) (reads_value value (by omega)) (by omega)
      rw [Value.nestingFields, Slot.ofFields, List.foldl_cons,
        ← spend_bind_spend (2 + value.nesting) (Value.nestingFields rest) budget
          (Keyed.insert name (Slot.ofValue value) before)
          ((Slot.ofFields rest).foldl fun sofar entry => Keyed.insert entry.1 entry.2 sofar)]
      refine Reads.cons writeField_ne_nil
        (yields_entry before entries (show entry.length < _ by omega)) ?_
      intro found _
      exact reads_struct rest (by omega) found budget

theorem reads_list : (items : List Value) →
    (writeList items).length < 0x10000000000000000 → (before : List Slot) →
    (budget : Nat) → Reads (Slot.readListField budget) before (writeList items)
      (spend (Value.nestingItems items) budget (before ++ Slot.ofItems items))
  | [], _, before, budget => by
      rw [Value.nestingItems, spend_nothing, Slot.ofItems, List.append_nil]
      exact Reads.nil
  | item :: rest, fits, before, budget => by
      have whole : (writeField 1 (writeValue item)).length + (writeList rest).length <
          0x10000000000000000 := by
        rw [← List.length_append]
        exact fits
      have inner : (writeValue item).length ≤ (writeField 1 (writeValue item)).length :=
        length_le_writeField
      have values := reads_value item (by omega)
      rw [Value.nestingItems, Slot.ofItems, List.append_cons,
        ← spend_bind_spend (1 + item.nesting) (Value.nestingItems rest) budget
          (before ++ [Slot.ofValue item]) (· ++ Slot.ofItems rest)]
      refine Reads.cons writeField_ne_nil (yields_item before values (by omega)) ?_
      intro found _
      exact reads_list rest (by omega) found budget

end

namespace Slot

theorem ofFields_eq_map (fields : List (String × Value)) :
    ofFields fields = fields.map fun field => (field.1, ofValue field.2) := by
  induction fields with
  | nil => rfl
  | cons field rest ih => simp [ofFields, ih]

theorem ofEntries_ofFields {fields : List (String × Value)}
    (inOrder : Keyed.ascending fields = true) :
    Keyed.ofEntries (ofFields fields) = ofFields fields := by
  refine Keyed.ofEntries_of_ascending ?_
  rw [ofFields_eq_map, Keyed.ascending_map]
  exact inOrder

mutual

/-- A value is read back with its numbers as doubles. -/
theorem toValue?_ofValue : (value : Value) → value.ordered = true →
    (ofValue value).toValue? = some value.asDoubles
  | .null, _ => rfl
  | .bool _, _ => rfl
  | .number value, _ => by
      rw [ofValue, toValue?, Number.ofDouble?_toDouble]
      rfl
  | .text _, _ => rfl
  | .list items, inOrder => by
      rw [ofValue, toValue?, toItems_ofItems items (by simpa [Value.ordered] using inOrder)]
      rfl
  | .object fields, inOrder => by
      simp only [Value.ordered, Bool.and_eq_true] at inOrder
      rw [ofValue, toValue?, ofEntries_ofFields inOrder.1, toFields_ofFields fields inOrder.2]
      rfl

theorem toItems_ofItems : (items : List Value) → Value.orderedItems items = true →
    toItems (ofItems items) = Value.asDoublesItems items
  | [], _ => rfl
  | item :: rest, inOrder => by
      simp only [Value.orderedItems, Bool.and_eq_true] at inOrder
      rw [ofItems, toItems, toValue?_ofValue item inOrder.1, toItems_ofItems rest inOrder.2]
      rfl

theorem toFields_ofFields : (fields : List (String × Value)) →
    Value.orderedFields fields = true →
    toFields (ofFields fields) = Value.asDoublesFields fields
  | [], _ => rfl
  | (name, value) :: rest, inOrder => by
      simp only [Value.orderedFields, Bool.and_eq_true] at inOrder
      rw [ofFields, toFields, toValue?_ofValue value inOrder.1, toFields_ofFields rest inOrder.2]
      rfl

end

end Slot

/-- The payload of a document, as far as the budget covers its nesting. -/
theorem reads_document (document : Document)
    (fits : (writeStruct document.fields).length < 0x10000000000000000) (budget : Nat) :
    Reads (Slot.readStructField budget) [] (writeStruct document.fields)
      (spend (Value.nestingFields document.fields) budget (Slot.ofFields document.fields)) := by
  have inOrder := document.ordered
  simp only [Value.ordered, Bool.and_eq_true] at inOrder
  have whole := reads_struct document.fields fits [] budget
  have rebuilt := Slot.ofEntries_ofFields inOrder.1
  rw [Keyed.ofEntries] at rebuilt
  rw [rebuilt] at whole
  exact whole

theorem ofFields_toFields_ofFields (document : Document) :
    Document.ofFields (Slot.toFields (Slot.ofFields document.fields)) = document.asDoubles := by
  have inOrder := document.ordered
  simp only [Value.ordered, Bool.and_eq_true] at inOrder
  rw [Slot.toFields_ofFields _ inOrder.2]
  exact document.asDoubles.ofFields_fields

end Wire
end Telemetry
