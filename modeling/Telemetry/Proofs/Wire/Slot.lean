import Telemetry.Proofs.Wire.Consumption

/-!
# Slots that reading builds

Reading merges and replaces slots, and an unset slot may get a value later.  Two things are known of
every slot on the way: it fits, which means that its entries are in order and its value is nested no
deeper than a budget, and it has a size, which is what its value is written in.  Merging two slots
gives no more than both sizes, and an entry that replaces another one only takes its place.
-/

namespace Telemetry
namespace Wire

namespace Slot

/-- Whether the entries of every struct within stand in ascending order of their names. -/
inductive Ordered : Slot → Prop where
  | unset : Ordered .unset
  | null : Ordered .null
  | number (value : Double) : Ordered (.number value)
  | text (content : String) : Ordered (.text content)
  | flag (value : Bool) : Ordered (.flag value)
  | struct {entries : List (String × Slot)} (ascending : Keyed.ascending entries = true)
      (inner : ∀ entry ∈ entries, Ordered entry.2) : Ordered (.struct entries)
  | list {items : List Slot} (inner : ∀ item ∈ items, Ordered item) : Ordered (.list items)

theorem ascending_toFields {entries : List (String × Slot)}
    (ascending : Keyed.ascending entries = true) :
    Keyed.ascending (toFields entries) = true := by
  have names : ((toFields entries).map Prod.fst).Sublist (entries.map Prod.fst) := by
    clear ascending
    induction entries with
    | nil => exact List.Sublist.slnil
    | cons entry rest ih =>
        obtain ⟨name, slot⟩ := entry
        rw [toFields]
        cases slot.toValue? with
        | none => exact ih.cons name
        | some value => exact ih.cons_cons name
  exact Keyed.ascending_iff_pairwise.mpr
    ((Keyed.ascending_iff_pairwise.mp ascending).sublist names)

mutual

/-- The value of an ordered slot is ordered and has no number but doubles. -/
theorem canonical_of_toValue? : (slot : Slot) → slot.Ordered → (value : Value) →
    slot.toValue? = some value → value.ordered = true ∧ value.asDoubles = value
  | .unset, _, _, found => nomatch found
  | .null, _, _, rfl => ⟨rfl, rfl⟩
  | .number value, _, _, found => by
      cases found
      rw [Number.ofDouble?]
      by_cases finite : value.isFinite = true
      · rw [dif_pos finite]
        exact ⟨rfl, rfl⟩
      · rw [dif_neg finite]
        exact ⟨rfl, rfl⟩
  | .text _, _, _, rfl => ⟨rfl, rfl⟩
  | .flag _, _, _, rfl => ⟨rfl, rfl⟩
  | .struct entries, .struct ascending inner, _, rfl => by
      obtain ⟨ordered, doubles⟩ := canonical_toFields entries inner
      rw [Value.ordered, ascending_toFields ascending, ordered, Value.asDoubles, doubles]
      exact ⟨rfl, rfl⟩
  | .list items, .list inner, _, rfl => by
      obtain ⟨ordered, doubles⟩ := canonical_toItems items inner
      rw [Value.ordered, ordered, Value.asDoubles, doubles]
      exact ⟨rfl, rfl⟩

theorem canonical_toFields : (entries : List (String × Slot)) →
    (∀ entry ∈ entries, entry.2.Ordered) →
    Value.orderedFields (toFields entries) = true ∧
      Value.asDoublesFields (toFields entries) = toFields entries
  | [], _ => ⟨rfl, rfl⟩
  | (name, slot) :: rest, inner => by
      obtain ⟨here, there⟩ := List.forall_mem_cons.mp inner
      obtain ⟨ordered, doubles⟩ := canonical_toFields rest there
      rw [toFields]
      cases found : slot.toValue? with
      | none => exact ⟨ordered, doubles⟩
      | some value =>
          obtain ⟨first, second⟩ := canonical_of_toValue? slot here value found
          dsimp only
          rw [Value.orderedFields, first, ordered, Value.asDoublesFields, second, doubles]
          exact ⟨rfl, rfl⟩

theorem canonical_toItems : (items : List Slot) → (∀ item ∈ items, item.Ordered) →
    Value.orderedItems (toItems items) = true ∧
      Value.asDoublesItems (toItems items) = toItems items
  | [], _ => ⟨rfl, rfl⟩
  | slot :: rest, inner => by
      obtain ⟨here, there⟩ := List.forall_mem_cons.mp inner
      obtain ⟨ordered, doubles⟩ := canonical_toItems rest there
      rw [toItems]
      cases found : slot.toValue? with
      | none => exact ⟨ordered, doubles⟩
      | some value =>
          obtain ⟨first, second⟩ := canonical_of_toValue? slot here value found
          dsimp only
          rw [Value.orderedItems, first, ordered, Value.asDoublesItems, second, doubles]
          exact ⟨rfl, rfl⟩

end

/-- Whether a slot is ordered and the budget covers the nesting of its value after other costs. -/
structure Fits (budget cost : Nat) (slot : Slot) : Prop where
  ordered : slot.Ordered
  nesting : ∀ value, slot.toValue? = some value → cost + value.nesting ≤ budget

/-- Whether the entries of a struct are in order and fit. -/
structure FitEntries (budget : Nat) (entries : List (String × Slot)) : Prop where
  ascending : Keyed.ascending entries = true
  inner : ∀ entry ∈ entries, entry.2.Fits budget 2

/-- Whether the items of a list fit, with a message for each. -/
def FitItems (budget : Nat) (items : List Slot) : Prop :=
  ∀ item ∈ items, item.Fits budget 1

section Fitting

variable {budget cost : Nat} {slot : Slot}

theorem fits_unset : Fits budget cost .unset :=
  ⟨.unset, nofun⟩

theorem fits_succ_iff : slot.Fits (budget + 1) (cost + 1) ↔ slot.Fits budget cost := by
  constructor
  all_goals
    rintro ⟨ordered, nesting⟩
    refine ⟨ordered, fun value found => ?_⟩
    have enough := nesting value found
    omega

theorem fits_of_flat (ordered : slot.Ordered)
    (flat : ∀ value, slot.toValue? = some value → value.nesting = 0) : slot.Fits budget 0 :=
  ⟨ordered, fun value found => by
    have none := flat value found
    omega⟩

theorem nestingFields_le_iff {entries : List (String × Slot)} :
    Value.nestingFields (toFields entries) ≤ budget ↔
      ∀ entry ∈ entries, ∀ value, entry.2.toValue? = some value → 2 + value.nesting ≤ budget := by
  induction entries with
  | nil => simp [toFields, Value.nestingFields]
  | cons entry rest ih =>
      obtain ⟨name, slot⟩ := entry
      rw [List.forall_mem_cons, ← ih, toFields]
      cases found : slot.toValue? with
      | none => simp
      | some value =>
          dsimp only
          rw [Value.nestingFields, Nat.max_le]
          simp only [Option.some.injEq, forall_eq']

theorem nestingItems_le_iff {items : List Slot} :
    Value.nestingItems (toItems items) ≤ budget ↔
      ∀ item ∈ items, ∀ value, item.toValue? = some value → 1 + value.nesting ≤ budget := by
  induction items with
  | nil => simp [toItems, Value.nestingItems]
  | cons slot rest ih =>
      rw [List.forall_mem_cons, ← ih, toItems]
      cases found : slot.toValue? with
      | none => simp
      | some value =>
          dsimp only
          rw [Value.nestingItems, Nat.max_le]
          simp only [Option.some.injEq, forall_eq']

theorem fits_null : Fits budget 0 .null :=
  fits_of_flat .null fun _ found => by cases found; rfl

theorem fits_number (value : Double) : Fits budget 0 (.number value) := by
  refine fits_of_flat (.number value) fun _ found => ?_
  cases found
  split <;> rfl

theorem fits_text (content : String) : Fits budget 0 (.text content) :=
  fits_of_flat (.text content) fun _ found => by cases found; rfl

theorem fits_flag (value : Bool) : Fits budget 0 (.flag value) :=
  fits_of_flat (.flag value) fun _ found => by cases found; rfl

theorem fits_struct_iff {entries : List (String × Slot)} :
    Fits (budget + 1) 0 (.struct entries) ↔ FitEntries budget entries := by
  have nesting : (∀ value, (Slot.struct entries).toValue? = some value →
        0 + value.nesting ≤ budget + 1) ↔
      Value.nestingFields (toFields entries) ≤ budget := by
    simp only [toValue?, Option.some.injEq, forall_eq', Value.nesting]
    omega
  constructor
  · rintro ⟨ordered, enough⟩
    cases ordered with | struct ascending inner =>
    exact ⟨ascending, fun entry member =>
      ⟨inner entry member, nestingFields_le_iff.mp (nesting.mp enough) entry member⟩⟩
  · rintro ⟨ascending, inner⟩
    exact ⟨.struct ascending fun entry member => (inner entry member).ordered,
      nesting.mpr (nestingFields_le_iff.mpr fun entry member => (inner entry member).nesting)⟩

theorem fits_list_iff {items : List Slot} :
    Fits (budget + 1) 0 (.list items) ↔ FitItems budget items := by
  have nesting : (∀ value, (Slot.list items).toValue? = some value →
        0 + value.nesting ≤ budget + 1) ↔
      Value.nestingItems (toItems items) ≤ budget := by
    simp only [toValue?, Option.some.injEq, forall_eq', Value.nesting]
    omega
  constructor
  · rintro ⟨ordered, enough⟩
    cases ordered with | list inner =>
    exact fun item member =>
      ⟨inner item member, nestingItems_le_iff.mp (nesting.mp enough) item member⟩
  · intro inner
    exact ⟨.list fun item member => (inner item member).ordered,
      nesting.mpr (nestingItems_le_iff.mpr fun item member => (inner item member).nesting)⟩

theorem fitEntries_nil : FitEntries budget [] :=
  ⟨rfl, List.forall_mem_nil _⟩

/-- What a struct field merges with fits. -/
theorem Fits.entries (fits : slot.Fits (budget + 1) 0) : FitEntries budget slot.entries := by
  cases slot with
  | struct entries => exact fits_struct_iff.mp fits
  | _ => exact fitEntries_nil

theorem Fits.items (fits : slot.Fits (budget + 1) 0) : FitItems budget slot.items := by
  cases slot with
  | list items => exact fits_list_iff.mp fits
  | _ => exact List.forall_mem_nil _

theorem FitEntries.insert {entries : List (String × Slot)} {name : String}
    (whole : FitEntries budget entries) (fits : slot.Fits budget 2) :
    FitEntries budget (Keyed.insert name slot entries) := by
  refine ⟨Keyed.ascending_insert name slot whole.ascending, fun entry member => ?_⟩
  obtain rfl | member := Keyed.mem_insert member
  · exact fits
  · exact whole.inner entry member

theorem FitItems.concat {items : List Slot} (whole : FitItems budget items)
    (fits : slot.Fits budget 1) : FitItems budget (items ++ [slot]) :=
  List.forall_mem_append.mpr ⟨whole, List.forall_mem_singleton.mpr fits⟩

end Fitting

section Sizes

/-- The bytes that the value of a slot is written in. -/
def size (slot : Slot) : Nat :=
  slot.toValue?.elim 0 fun value => (writeValue value).length

/-- The bytes that a slot takes as a field of another message, where an unset one is left out. -/
def fieldSize (slot : Slot) : Nat :=
  if slot.toValue?.isSome then 1 + delimitedSize slot.size else 0

/-- The bytes of an entry: its name, unless that is empty, and its value. -/
def entrySize (entry : String × Slot) : Nat :=
  (if entry.1 = "" then [] else writeField 1 (textBytes entry.1)).length + entry.2.fieldSize

/-- The bytes that an entry takes as a field of a struct, where an unset one is left out. -/
def memberSize (entry : String × Slot) : Nat :=
  if entry.2.toValue?.isSome then 1 + delimitedSize (entrySize entry) else 0

def structSize (entries : List (String × Slot)) : Nat :=
  (writeStruct (toFields entries)).length

def listSize (items : List Slot) : Nat :=
  (writeList (toItems items)).length

variable {slot before : Slot} {length : Nat}

/-- A slot that bytes were read into grows by one field at most. -/
theorem fieldSize_le_add (grown : slot.size ≤ before.size + length) :
    slot.fieldSize ≤ before.fieldSize + 1 + delimitedSize length := by
  have there : before.size = 0 ∨ 1 + delimitedSize before.size ≤ before.fieldSize := by
    rw [fieldSize, size]
    cases before.toValue? with
    | none => exact .inl rfl
    | some value => exact .inr (Nat.le_refl _)
  rw [fieldSize]
  split
  · exact Wire.fieldSize_le grown there
  · exact Nat.zero_le _

theorem length_label_le (name : String) :
    (if name = "" then [] else writeField 1 (textBytes name)).length ≤
      1 + delimitedSize (textBytes name).length := by
  split
  · exact Nat.zero_le _
  · exact Nat.le_of_eq (length_writeField (by decide) _)

theorem memberSize_le {entry : String × Slot} (grown : entrySize entry ≤ length) :
    memberSize entry ≤ 1 + delimitedSize length := by
  have whole := delimitedSize_mono grown
  rw [memberSize]
  split <;> omega

theorem size_null : size .null = 2 := by decide

/-- A number that is not finite is written as null, which is shorter. -/
theorem size_number_le (value : Double) : size (.number value) ≤ 9 := by
  rw [size, toValue?, Option.elim_some]
  split
  · refine Nat.le_of_eq ?_
    rw [writeValue, List.length_append, length_writeKey (by decide), length_writeFixed64]
  · decide

theorem size_text (content : String) :
    size (.text content) = 1 + delimitedSize (textBytes content).length :=
  length_writeField (by decide) _

theorem size_flag (value : Bool) : size (.flag value) = 2 := by
  cases value <;> decide

theorem size_struct (entries : List (String × Slot)) :
    (Slot.struct entries).size = 1 + delimitedSize (structSize entries) :=
  length_writeField (by decide) _

theorem size_list (items : List Slot) :
    (Slot.list items).size = 1 + delimitedSize (listSize items) :=
  length_writeField (by decide) _

theorem size_struct_le {entries : List (String × Slot)}
    (grown : structSize entries ≤ structSize slot.entries + length) :
    (Slot.struct entries).size ≤ slot.size + 1 + delimitedSize length := by
  rw [size_struct]
  refine Wire.fieldSize_le grown ?_
  cases slot with
  | struct present => exact .inr (Nat.le_of_eq (size_struct present).symm)
  | _ => exact .inl rfl

theorem size_list_le {items : List Slot} (grown : listSize items ≤ listSize slot.items + length) :
    (Slot.list items).size ≤ slot.size + 1 + delimitedSize length := by
  rw [size_list]
  refine Wire.fieldSize_le grown ?_
  cases slot with
  | list present => exact .inr (Nat.le_of_eq (size_list present).symm)
  | _ => exact .inl rfl

theorem structSize_cons (entry : String × Slot) (rest : List (String × Slot)) :
    structSize (entry :: rest) = memberSize entry + structSize rest := by
  obtain ⟨name, slot⟩ := entry
  rw [structSize, toFields, memberSize, entrySize, fieldSize, size]
  cases slot.toValue? with
  | none => exact (Nat.zero_add _).symm
  | some value =>
      dsimp only
      rw [writeStruct, List.length_append, length_writeField (by decide), List.length_append,
        length_writeField (by decide)]
      rfl

/-- An entry that replaces another one leaves its bytes out. -/
theorem structSize_insert_le (name : String) (slot : Slot) (entries : List (String × Slot)) :
    structSize (Keyed.insert name slot entries) ≤
      memberSize (name, slot) + structSize entries := by
  induction entries with
  | nil => exact Nat.le_of_eq (structSize_cons _ _)
  | cons entry rest ih =>
      obtain ⟨other, present⟩ := entry
      rw [Keyed.insert]
      split
      · exact Nat.le_of_eq (structSize_cons _ _)
      · split
        · rw [structSize_cons, structSize_cons]
          omega
        · rw [structSize_cons, structSize_cons]
          omega

theorem listSize_cons (item : Slot) (rest : List Slot) :
    listSize (item :: rest) = item.fieldSize + listSize rest := by
  rw [listSize, toItems, fieldSize, size]
  cases item.toValue? with
  | none => exact (Nat.zero_add _).symm
  | some value =>
      dsimp only
      rw [writeList, List.length_append, length_writeField (by decide)]
      rfl

theorem listSize_concat (items : List Slot) (slot : Slot) :
    listSize (items ++ [slot]) = listSize items + slot.fieldSize := by
  induction items with
  | nil => exact (listSize_cons slot []).trans (Nat.add_comm _ _)
  | cons item rest ih => rw [List.cons_append, listSize_cons, ih, listSize_cons, Nat.add_assoc]

end Sizes

end Slot
end Wire
end Telemetry
