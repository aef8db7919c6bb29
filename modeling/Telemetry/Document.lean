import Telemetry.Double.Rounding
import Telemetry.Keyed

/-!
# Payload documents

A payload is an object of named values, nested to any depth.  The fields of every object stand in
ascending order of their names, each name once, so two documents with the same content are equal.
Numbers are integers of at most sixty-four bits or finite doubles, and the two kinds differ.
-/

namespace Telemetry

/-- A number of a document. -/
inductive Number where
  | integer (value : Int) (fits : -0x8000000000000000 ≤ value ∧ value < 0x10000000000000000)
  | double (value : Double) (finite : value.isFinite = true)
  deriving DecidableEq, Repr

namespace Number

/-- The integer as a number, if sixty-four bits hold it. -/
def ofInt? (value : Int) : Option Number :=
  if fits : -0x8000000000000000 ≤ value ∧ value < 0x10000000000000000 then
    some (.integer value fits)
  else
    none

/-- The double as a number, if it is finite. -/
def ofDouble? (value : Double) : Option Number :=
  if finite : value.isFinite = true then some (.double value finite) else none

/-- The nearest double. -/
def toDouble : Number → Double
  | .integer value _ => Double.ofInt value
  | .double value _ => value

end Number

/-- A value of a document. -/
inductive Value where
  | null
  | bool (flag : Bool)
  | number (value : Number)
  | text (content : String)
  | list (items : List Value)
  | object (fields : List (String × Value))
  deriving Repr

namespace Value

mutual

/-- Equality of values can be decided. -/
def decEq : (left right : Value) → Decidable (left = right)
  | .null, .null => isTrue rfl
  | .bool left, .bool right => decidable_of_iff (left = right) (by simp)
  | .number left, .number right => decidable_of_iff (left = right) (by simp)
  | .text left, .text right => decidable_of_iff (left = right) (by simp)
  | .list left, .list right =>
      have := decEqItems left right
      decidable_of_iff (left = right) (by simp)
  | .object left, .object right =>
      have := decEqFields left right
      decidable_of_iff (left = right) (by simp)
  | .null, .bool _ | .null, .number _ | .null, .text _ | .null, .list _ | .null, .object _
  | .bool _, .null | .bool _, .number _ | .bool _, .text _ | .bool _, .list _ | .bool _, .object _
  | .number _, .null | .number _, .bool _ | .number _, .text _ | .number _, .list _
  | .number _, .object _
  | .text _, .null | .text _, .bool _ | .text _, .number _ | .text _, .list _ | .text _, .object _
  | .list _, .null | .list _, .bool _ | .list _, .number _ | .list _, .text _ | .list _, .object _
  | .object _, .null | .object _, .bool _ | .object _, .number _ | .object _, .text _
  | .object _, .list _ => isFalse (by simp)

/-- Equality of lists of values can be decided. -/
def decEqItems : (left right : List Value) → Decidable (left = right)
  | [], [] => isTrue rfl
  | [], _ :: _ | _ :: _, [] => isFalse (by simp)
  | left :: leftRest, right :: rightRest =>
      have := decEq left right
      have := decEqItems leftRest rightRest
      decidable_of_iff (left = right ∧ leftRest = rightRest) (by simp)

/-- Equality of lists of fields can be decided. -/
def decEqFields : (left right : List (String × Value)) → Decidable (left = right)
  | [], [] => isTrue rfl
  | [], _ :: _ | _ :: _, [] => isFalse (by simp)
  | (leftName, left) :: leftRest, (rightName, right) :: rightRest =>
      have := decEq left right
      have := decEqFields leftRest rightRest
      decidable_of_iff ((leftName = rightName ∧ left = right) ∧ leftRest = rightRest) (by simp)

end

instance : DecidableEq Value := decEq

mutual

/-- Whether the fields of every object within stand in ascending order of their names. -/
def ordered : Value → Bool
  | .list items => orderedItems items
  | .object fields => Keyed.ascending fields && orderedFields fields
  | .null | .bool _ | .number _ | .text _ => true

/-- Whether every item is ordered. -/
def orderedItems : List Value → Bool
  | [] => true
  | item :: rest => item.ordered && orderedItems rest

/-- Whether the value of every field is ordered. -/
def orderedFields : List (String × Value) → Bool
  | [] => true
  | (_, value) :: rest => value.ordered && orderedFields rest

end

mutual

/-- Put the fields of every object within into order; of several with one name the last stays. -/
def sorted : Value → Value
  | .list items => .list (sortedItems items)
  | .object fields => .object (Keyed.ofEntries (sortedFields fields))
  | .null => .null
  | .bool flag => .bool flag
  | .number value => .number value
  | .text content => .text content

/-- Put every item into order. -/
def sortedItems : List Value → List Value
  | [] => []
  | item :: rest => item.sorted :: sortedItems rest

/-- Put the value of every field into order. -/
def sortedFields : List (String × Value) → List (String × Value)
  | [] => []
  | (name, value) :: rest => (name, value.sorted) :: sortedFields rest

end

theorem orderedFields_eq_true_iff {fields : List (String × Value)} :
    orderedFields fields = true ↔ ∀ field ∈ fields, field.2.ordered = true := by
  induction fields with
  | nil => simp [orderedFields]
  | cons field rest ih =>
      obtain ⟨name, value⟩ := field
      simp [orderedFields, ih]

mutual

theorem ordered_sorted : (value : Value) → value.sorted.ordered = true
  | .list items => by simpa [sorted, ordered] using orderedItems_sortedItems items
  | .object fields => by
      have inner := orderedFields_sortedFields fields
      simp only [sorted, ordered, Bool.and_eq_true, Keyed.ascending_ofEntries, true_and]
      rw [orderedFields_eq_true_iff] at inner ⊢
      exact fun field member => inner field (Keyed.mem_of_mem_ofEntries member)
  | .null => rfl
  | .bool _ => rfl
  | .number _ => rfl
  | .text _ => rfl

theorem orderedItems_sortedItems : (items : List Value) → orderedItems (sortedItems items) = true
  | [] => rfl
  | item :: rest => by
      simp [sortedItems, orderedItems, ordered_sorted item, orderedItems_sortedItems rest]

theorem orderedFields_sortedFields :
    (fields : List (String × Value)) → orderedFields (sortedFields fields) = true
  | [] => rfl
  | (_, value) :: rest => by
      simp [sortedFields, orderedFields, ordered_sorted value, orderedFields_sortedFields rest]

end

/-- The value at a path of names; only objects have named parts. -/
def at? : Value → List String → Option Value
  | value, [] => some value
  | .object fields, name :: path => (Keyed.find? name fields).bind fun value => value.at? path
  | _, _ :: _ => none

/-- The number a value is, as a double. -/
def toDouble? : Value → Option Double
  | .number value => some value.toDouble
  | _ => none

end Value

/-- A payload document: an object whose fields, and those of every object within, are ordered. -/
structure Document where
  fields : List (String × Value)
  ordered : (Value.object fields).ordered = true
  deriving DecidableEq, Repr

namespace Document

/-- The document with the given fields, put into order. -/
def ofFields (fields : List (String × Value)) : Document :=
  ⟨Keyed.ofEntries (Value.sortedFields fields), Value.ordered_sorted (.object fields)⟩

/-- The document without fields. -/
def empty : Document := ofFields []

def isEmpty (document : Document) : Bool :=
  document.fields.isEmpty

/-- The number at a path of names, as a double. -/
def numberAt? (document : Document) (path : List String) : Option Double :=
  ((Value.object document.fields).at? path).bind Value.toDouble?

end Document
end Telemetry
