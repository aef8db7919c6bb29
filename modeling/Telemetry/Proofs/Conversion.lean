import Telemetry.Proofs.Keyed
import Telemetry.Proofs.Rounding
import Telemetry.Reading

/-!
# What the wire makes of a document

On the wire every number is a double.  `asDoubles` replaces each number of a document by the double
nearest to it and keeps everything else, so a look-up along a path finds the same number before and
after.  `nesting` is the budget that reading the document back will spend.
-/

namespace Telemetry

/-- The nearest double as a number of a document. -/
def Number.asDouble (number : Number) : Number :=
  .double number.toDouble number.isFinite_toDouble

@[simp]
theorem Number.toDouble_asDouble (number : Number) : number.asDouble.toDouble = number.toDouble :=
  rfl

theorem Number.ofDouble?_toDouble (number : Number) :
    Number.ofDouble? number.toDouble = some number.asDouble := by
  simp [Number.ofDouble?, Number.asDouble, number.isFinite_toDouble]

namespace Value

mutual

/-- The value with every number as a double. -/
def asDoubles : Value → Value
  | .number value => .number value.asDouble
  | .list items => .list (asDoublesItems items)
  | .object fields => .object (asDoublesFields fields)
  | .null => .null
  | .bool flag => .bool flag
  | .text content => .text content

def asDoublesItems : List Value → List Value
  | [] => []
  | item :: rest => item.asDoubles :: asDoublesItems rest

def asDoublesFields : List (String × Value) → List (String × Value)
  | [] => []
  | (name, value) :: rest => (name, value.asDoubles) :: asDoublesFields rest

end

mutual

/-- The budget that the messages within a value's message spend: an object or a list is one message,
an item one more, and a field an entry and its value. -/
def nesting : Value → Nat
  | .list items => 1 + nestingItems items
  | .object fields => 1 + nestingFields fields
  | .null | .bool _ | .number _ | .text _ => 0

def nestingItems : List Value → Nat
  | [] => 0
  | item :: rest => max (1 + item.nesting) (nestingItems rest)

def nestingFields : List (String × Value) → Nat
  | [] => 0
  | (_, value) :: rest => max (2 + value.nesting) (nestingFields rest)

end

theorem asDoublesFields_eq_map (fields : List (String × Value)) :
    asDoublesFields fields = fields.map fun field => (field.1, field.2.asDoubles) := by
  induction fields with
  | nil => rfl
  | cons field rest ih => simp [asDoublesFields, ih]

mutual

theorem ordered_asDoubles : (value : Value) → value.asDoubles.ordered = value.ordered
  | .list items => by simpa [asDoubles, ordered] using orderedItems_asDoublesItems items
  | .object fields => by
      have keys := Keyed.ascending_map fields asDoubles
      rw [← asDoublesFields_eq_map] at keys
      simp [asDoubles, ordered, keys, orderedFields_asDoublesFields fields]
  | .null => rfl
  | .bool _ => rfl
  | .number _ => rfl
  | .text _ => rfl

theorem orderedItems_asDoublesItems :
    (items : List Value) → orderedItems (asDoublesItems items) = orderedItems items
  | [] => rfl
  | item :: rest => by
      simp [asDoublesItems, orderedItems, ordered_asDoubles item,
        orderedItems_asDoublesItems rest]

theorem orderedFields_asDoublesFields :
    (fields : List (String × Value)) → orderedFields (asDoublesFields fields) = orderedFields fields
  | [] => rfl
  | (_, value) :: rest => by
      simp [asDoublesFields, orderedFields, ordered_asDoubles value,
        orderedFields_asDoublesFields rest]

end

mutual

theorem sorted_of_ordered : (value : Value) → value.ordered = true → value.sorted = value
  | .list items, inOrder => by
      rw [sorted, sortedItems_of_ordered items (by simpa [ordered] using inOrder)]
  | .object fields, inOrder => by
      simp only [ordered, Bool.and_eq_true] at inOrder
      rw [sorted, sortedFields_of_ordered fields inOrder.2, Keyed.ofEntries_of_ascending inOrder.1]
  | .null, _ => rfl
  | .bool _, _ => rfl
  | .number _, _ => rfl
  | .text _, _ => rfl

theorem sortedItems_of_ordered :
    (items : List Value) → orderedItems items = true → sortedItems items = items
  | [], _ => rfl
  | item :: rest, inOrder => by
      simp only [orderedItems, Bool.and_eq_true] at inOrder
      rw [sortedItems, sorted_of_ordered item inOrder.1, sortedItems_of_ordered rest inOrder.2]

theorem sortedFields_of_ordered :
    (fields : List (String × Value)) → orderedFields fields = true → sortedFields fields = fields
  | [], _ => rfl
  | (_, value) :: rest, inOrder => by
      simp only [orderedFields, Bool.and_eq_true] at inOrder
      rw [sortedFields, sorted_of_ordered value inOrder.1, sortedFields_of_ordered rest inOrder.2]

end

theorem at?_asDoubles (value : Value) (path : List String) :
    value.asDoubles.at? path = (value.at? path).map asDoubles := by
  induction path generalizing value with
  | nil => simp [at?]
  | cons name path ih =>
      cases value with
      | object fields =>
          rw [asDoubles, at?, at?, asDoublesFields_eq_map, Keyed.find?_map]
          cases Keyed.find? name fields with
          | none => rfl
          | some inner => simpa using ih inner
      | _ => simp [asDoubles, at?]

@[simp]
theorem toDouble?_asDoubles (value : Value) : value.asDoubles.toDouble? = value.toDouble? := by
  cases value <;> simp [asDoubles, toDouble?]

end Value

namespace Document

/-- The document with every number as a double. -/
def asDoubles (document : Document) : Document where
  fields := Value.asDoublesFields document.fields
  ordered := (Value.ordered_asDoubles (.object document.fields)).trans document.ordered

/-- The budget that reading the document spends. -/
def nesting (document : Document) : Nat :=
  (Value.object document.fields).nesting

@[simp]
theorem ofFields_fields (document : Document) : ofFields document.fields = document := by
  obtain ⟨fields, inOrder⟩ := document
  have same := Value.sorted_of_ordered (.object fields) inOrder
  rw [Value.sorted, Value.object.injEq] at same
  unfold ofFields
  congr

/-- The conversion of numbers does not move or remove any. -/
@[simp]
theorem numberAt?_asDoubles (document : Document) (path : List String) :
    document.asDoubles.numberAt? path = document.numberAt? path := by
  have found := Value.at?_asDoubles (.object document.fields) path
  rw [Value.asDoubles] at found
  rw [numberAt?, numberAt?, asDoubles, found, Option.bind_map]
  congr 1
  funext value
  exact Value.toDouble?_asDoubles value

end Document

def Record.asDoubles (record : Record) : Record :=
  { record with data := record.data.asDoubles }

end Telemetry
