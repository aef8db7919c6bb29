import Telemetry.Proofs.Histogram.Fill
import Telemetry.Store.Table

/-!
# What the store's statement means

The parameters of a statement stand in the order of its placeholders, so evaluating the statement
gives each clause the value that the query has for it.
-/

namespace Telemetry
namespace Histogram

theorem filterMap_role_separated (separator : String) (fragments : List Fragment) :
    (separated separator fragments).filterMap Fragment.role? =
      fragments.filterMap Fragment.role? := by
  induction fragments with
  | nil => rfl
  | cons fragment rest ih =>
      cases rest with
      | nil => rfl
      | cons next rest =>
          rw [separated, List.filterMap_cons, List.filterMap_cons, ih,
            List.filterMap_cons (l := next :: rest)]
          rfl

def numbered (count : Nat) (role : Nat → Role) : List Role :=
  (List.range count).map role

theorem filterMap_role_placeholders (count : Nat) (role : Nat → Role) :
    ((List.range count).map fun index => Fragment.placeholder (role index)).filterMap
      Fragment.role? = numbered count role := by
  rw [List.filterMap_map, numbered]
  exact congrFun List.filterMap_eq_map _

theorem Shape.roles_eq (shape : Shape) :
    shape.roles = numbered shape.thresholds .threshold ++ numbered shape.segments .valueSegment ++
      [.organization, .rangeStart, .rangeStop] ++
      (if shape.filtersDevices then [.devices] else []) ++
      numbered shape.segments .typeSegment := by
  have counts : shape.countFragments.filterMap Fragment.role? =
      numbered shape.thresholds .threshold := by
    rw [Shape.countFragments]
    split
    · rename_i none
      rw [none]
      rfl
    · simp only [List.filterMap_append, List.filterMap_cons, List.filterMap_nil, Fragment.role?,
        filterMap_role_separated, filterMap_role_placeholders, List.append_nil]
  have paths (role : Nat → Role) : (shape.pathFragments role).filterMap Fragment.role? =
      numbered shape.segments role := by
    rw [Shape.pathFragments, filterMap_role_separated, filterMap_role_placeholders]
  simp only [Shape.roles, Shape.fragments, List.filterMap_append, counts, paths]
  split <;> simp [Fragment.role?, List.filterMap_cons]

end Histogram

namespace Store
namespace Bindings

open Histogram

@[simp]
theorem value?_append (first second : Bindings) (role : Role) :
    value? (first ++ second) role = (first.value? role).or (second.value? role) := by
  rw [value?, List.find?_append, Option.map_or, value?, value?]

@[simp]
theorem value?_nil (role : Role) : value? [] role = none := rfl

@[simp]
theorem value?_cons (other role : Role) (parameter : Parameter) (rest : Bindings) :
    value? ((other, parameter) :: rest) role =
      if other = role then some parameter else rest.value? role := by
  by_cases same : other = role <;> simp [value?, same]

/-- The bindings of numbered placeholders from a number on. -/
def block (role : Nat → Role) (first : Nat) : List Parameter → Bindings
  | [] => []
  | parameter :: rest => (role first, parameter) :: block role (first + 1) rest

theorem block_eq_zip (role : Nat → Role) (parameters : List Parameter) :
    block role 0 parameters = (numbered parameters.length role).zip parameters := by
  have general (first : Nat) : block role first parameters =
      ((List.range' first parameters.length).map role).zip parameters := by
    induction parameters generalizing first with
    | nil => rfl
    | cons parameter rest ih => rw [block, ih, List.length_cons, List.range'_succ]; rfl
  rw [general, numbered, List.range_eq_range']

@[simp]
theorem value?_block_of_ne {role : Nat → Role} {other : Role} (apart : ∀ index, role index ≠ other)
    (first : Nat) (parameters : List Parameter) :
    (block role first parameters).value? other = none := by
  induction parameters generalizing first with
  | nil => rfl
  | cons parameter rest ih => rw [block, value?_cons, if_neg (apart first), ih]

theorem value?_block {role : Nat → Role} (injective : Function.Injective role) (first index : Nat)
    (parameters : List Parameter) :
    (block role first parameters).value? (role (first + index)) = parameters[index]? := by
  induction parameters generalizing first index with
  | nil => rfl
  | cons parameter rest ih =>
      cases index with
      | zero => simp [block]
      | succ index =>
          have apart : role first ≠ role (first + (index + 1)) := by
            intro same
            have := injective same
            omega
          have place : first + (index + 1) = first + 1 + index := by omega
          rw [block, value?_cons, if_neg apart, place, ih, List.getElem?_cons_succ]

theorem value?_block_zero {role : Nat → Role} (injective : Function.Injective role) (index : Nat)
    (parameters : List Parameter) :
    (block role 0 parameters).value? (role index) = parameters[index]? := by
  rw [← value?_block injective 0 index parameters, Nat.zero_add]

theorem filterMap_getElem?_range {α : Type} (elements : List α) :
    (List.range elements.length).filterMap (fun index => elements[index]?) = elements := by
  induction elements with
  | nil => rfl
  | cons element rest ih =>
      rw [List.length_cons, List.range_succ_eq_map, List.filterMap_cons, List.filterMap_map]
      simpa [Function.comp_def] using ih

end Bindings

section Meaning

open Histogram

variable {query : Query} {table : String} {statement : Statement}

theorem statement_eq_ok_iff :
    query.statement table = .ok statement ↔
      FieldPath.segments query.path = .ok (FieldPath.split query.path) ∧ query.interval ≠ 0 ∧
        statement =
          { shape :=
              { table
                interval := query.interval
                thresholds := query.thresholds.length
                segments := (FieldPath.split query.path).length
                filtersDevices := !query.devices.isEmpty }
            parameters :=
              query.thresholds.map .double ++ (FieldPath.split query.path).map .text ++
                [.text query.organization, .integer query.start.millis,
                  .integer query.stop.millis] ++
                (if query.devices.isEmpty then [] else [.texts query.devices]) ++
                (FieldPath.split query.path).map .text } := by
  rw [Query.statement, FieldPath.segments]
  split
  · simp [Bind.bind, Except.bind]
  · by_cases none : query.interval = 0
    · simp [Bind.bind, Except.bind, none]
    · simpa [Bind.bind, Except.bind, none] using eq_comm

/-- Every placeholder of a query's statement has a parameter and every parameter a placeholder. -/
theorem length_roles_eq (built : query.statement table = .ok statement) :
    statement.shape.roles.length = statement.parameters.length := by
  obtain ⟨_, _, rfl⟩ := statement_eq_ok_iff.mp built
  rw [Shape.roles_eq]
  by_cases none : query.devices.isEmpty = true <;> simp [none, numbered]

theorem bindingsOf_eq (built : query.statement table = .ok statement) :
    bindingsOf statement =
      Bindings.block .threshold 0 (query.thresholds.map .double) ++
        Bindings.block .valueSegment 0 ((FieldPath.split query.path).map .text) ++
        [(.organization, .text query.organization), (.rangeStart, .integer query.start.millis),
          (.rangeStop, .integer query.stop.millis)] ++
        (if query.devices.isEmpty then [] else [(.devices, .texts query.devices)]) ++
        Bindings.block .typeSegment 0 ((FieldPath.split query.path).map .text) := by
  obtain ⟨_, _, rfl⟩ := statement_eq_ok_iff.mp built
  rw [bindingsOf, Shape.roles_eq, Bindings.block_eq_zip, Bindings.block_eq_zip,
    Bindings.block_eq_zip, List.zip_append, List.zip_append, List.zip_append, List.zip_append]
  · simp only [List.length_map]
    by_cases none : query.devices.isEmpty = true <;> simp [none]
  all_goals
    by_cases none : query.devices.isEmpty = true <;> simp [none, numbered]

theorem text?_organization (built : query.statement table = .ok statement) :
    (bindingsOf statement).text? .organization = some query.organization := by
  rw [bindingsOf_eq built, Bindings.text?]
  simp

theorem integer?_rangeStart (built : query.statement table = .ok statement) :
    (bindingsOf statement).integer? .rangeStart = some query.start.millis := by
  rw [bindingsOf_eq built, Bindings.integer?]
  simp

theorem integer?_rangeStop (built : query.statement table = .ok statement) :
    (bindingsOf statement).integer? .rangeStop = some query.stop.millis := by
  rw [bindingsOf_eq built, Bindings.integer?]
  simp

theorem texts?_devices (built : query.statement table = .ok statement)
    (named : query.devices.isEmpty = false) :
    (bindingsOf statement).texts? .devices = some query.devices := by
  rw [bindingsOf_eq built, Bindings.texts?]
  simp [named]

theorem value?_threshold (built : query.statement table = .ok statement) (index : Nat) :
    (bindingsOf statement).value? (.threshold index) =
      query.thresholds[index]?.map Parameter.double := by
  have injective : Function.Injective Role.threshold := fun _ _ same => Role.threshold.inj same
  rw [bindingsOf_eq built]
  simp [Bindings.value?_block_zero injective,
    apply_ite fun bindings : Bindings => bindings.value? (.threshold index)]

theorem value?_valueSegment (built : query.statement table = .ok statement) (index : Nat) :
    (bindingsOf statement).value? (.valueSegment index) =
      (FieldPath.split query.path)[index]?.map Parameter.text := by
  have injective : Function.Injective Role.valueSegment :=
    fun _ _ same => Role.valueSegment.inj same
  rw [bindingsOf_eq built]
  simp [Bindings.value?_block_zero injective,
    apply_ite fun bindings : Bindings => bindings.value? (.valueSegment index)]

theorem value?_typeSegment (built : query.statement table = .ok statement) (index : Nat) :
    (bindingsOf statement).value? (.typeSegment index) =
      (FieldPath.split query.path)[index]?.map Parameter.text := by
  have injective : Function.Injective Role.typeSegment := fun _ _ same => Role.typeSegment.inj same
  rw [bindingsOf_eq built]
  simp [Bindings.value?_block_zero injective,
    apply_ite fun bindings : Bindings => bindings.value? (.typeSegment index)]

theorem Bindings.path_eq {bindings : Bindings} {role : Nat → Role} {texts : List String}
    (each : ∀ index, bindings.value? (role index) = texts[index]?.map Parameter.text) :
    bindings.path texts.length role = texts := by
  have found (index : Nat) : bindings.text? (role index) = texts[index]? := by
    rw [text?, each]
    cases texts[index]? <;> rfl
  rw [path]
  simp only [found, filterMap_getElem?_range]

theorem Bindings.thresholds_eq {bindings : Bindings} {bounds : List Double}
    (each : ∀ index, bindings.value? (.threshold index) = bounds[index]?.map Parameter.double) :
    bindings.thresholds bounds.length = bounds := by
  refine (List.filterMap_congr fun index _ => ?_).trans (filterMap_getElem?_range bounds)
  rw [each]
  cases bounds[index]? <;> rfl

theorem shape_eq (built : query.statement table = .ok statement) :
    statement.shape =
      { table
        interval := query.interval
        thresholds := query.thresholds.length
        segments := (FieldPath.split query.path).length
        filtersDevices := !query.devices.isEmpty } := by
  rw [(statement_eq_ok_iff.mp built).2.2]

theorem path_eq (built : query.statement table = .ok statement) {role : Nat → Role}
    (each : ∀ index, (bindingsOf statement).value? (role index) =
      (FieldPath.split query.path)[index]?.map Parameter.text) :
    (bindingsOf statement).path statement.shape.segments role = FieldPath.split query.path := by
  have counted : statement.shape.segments = (FieldPath.split query.path).length := by
    rw [shape_eq built]
  rw [counted]
  exact Bindings.path_eq each

theorem thresholds_eq (built : query.statement table = .ok statement) :
    (bindingsOf statement).thresholds statement.shape.thresholds = query.thresholds := by
  have counted : statement.shape.thresholds = query.thresholds.length := by
    rw [shape_eq built]
  rw [counted]
  exact Bindings.thresholds_eq (value?_threshold built)

/-- Whether a row of the table is in the scope of a query. -/
def InScope (query : Query) (row : Row) : Prop :=
  row.organization = query.organization ∧ (query.devices = [] ∨ row.device ∈ query.devices) ∧
    query.start.millis ≤ row.occurredAt ∧ row.occurredAt < query.stop.millis

instance (query : Query) (row : Row) : Decidable (InScope query row) :=
  inferInstanceAs (Decidable (_ ∧ _))

/-- The observation that a row of the table is for a query. -/
def observationOf? (query : Query) (row : Row) : Option Observation :=
  if InScope query row then
    (row.payload.numberAt? (FieldPath.split query.path)).map fun value =>
      ⟨alignedStart query.interval (row.occurredAt / 1000), value⟩
  else
    none

theorem opening_mem_axis (interval_pos : 0 < query.interval) {row : Row}
    {observation : Observation} (observed : observationOf? query row = some observation) :
    observation.opening ∈ query.axis := by
  rw [observationOf?] at observed
  split at observed
  · rename_i inside
    obtain ⟨_, _, after, before⟩ := inside
    obtain ⟨value, _, rfl⟩ := Option.map_eq_some_iff.mp observed
    exact Query.alignedStart_mem_axis interval_pos after before
  · cases observed

/-- The statement selects the rows in scope with a number at the path. -/
theorem selects_iff (built : query.statement table = .ok statement) (row : Row) :
    selects statement row = true ↔
      InScope query row ∧ (row.payload.numberAt? (FieldPath.split query.path)).isSome = true := by
  have listed : (!statement.shape.filtersDevices ||
        ((bindingsOf statement).texts? .devices).any (·.contains row.device)) = true ↔
      query.devices = [] ∨ row.device ∈ query.devices := by
    rw [shape_eq built]
    by_cases named : query.devices.isEmpty = true
    · simp [List.isEmpty_iff.mp named]
    · rw [texts?_devices built (by simpa using named)]
      simp
  have owned : (some query.organization == some row.organization) = true ↔
      row.organization = query.organization := by
    rw [beq_iff_eq, Option.some.injEq, eq_comm]
  rw [selects]
  simp only [Bool.and_eq_true, listed, text?_organization built, integer?_rangeStart built,
    integer?_rangeStop built, path_eq built (value?_typeSegment built), Option.any_some,
    decide_eq_true_eq, InScope, owned]
  tauto

theorem isSome_observationOf? (built : query.statement table = .ok statement) (row : Row) :
    (observationOf? query row).isSome = selects statement row := by
  rw [Bool.eq_iff_iff, selects_iff built, observationOf?]
  by_cases inside : InScope query row
  · rw [if_pos inside, Option.isSome_map, and_iff_right inside]
  · rw [if_neg inside]
    exact ⟨nofun, fun ⟨within, _⟩ => absurd within inside⟩

/-- A statement groups and counts the observations of the table. -/
theorem evaluate_eq (built : query.statement table = .ok statement) (rows : List Row) :
    evaluate statement rows =
      aggregate query.thresholds (rows.filterMap (observationOf? query)) := by
  have observed : (rows.filter (selects statement)).map (fun row =>
        Observation.mk (alignedStart statement.shape.interval (row.occurredAt / 1000))
          (valueOf statement row)) =
      rows.filterMap (observationOf? query) := by
    have width : statement.shape.interval = query.interval := by rw [shape_eq built]
    induction rows with
    | nil => rfl
    | cons row rest ih =>
        rw [List.filterMap_cons, observationOf?]
        by_cases selected : selects statement row = true
        · obtain ⟨inside, numeric⟩ := (selects_iff built row).mp selected
          obtain ⟨value, found⟩ := Option.isSome_iff_exists.mp numeric
          rw [List.filter_cons_of_pos selected, List.map_cons, ih, if_pos inside, found, valueOf,
            path_eq built (value?_valueSegment built), found, width]
          rfl
        · rw [List.filter_cons_of_neg selected, ih]
          by_cases inside : InScope query row
          · have missing : row.payload.numberAt? (FieldPath.split query.path) = none := by
              rw [← Option.not_isSome_iff_eq_none]
              exact fun numeric => selected ((selects_iff built row).mpr ⟨inside, numeric⟩)
            rw [if_pos inside, missing]
            rfl
          · rw [if_neg inside]
  rw [evaluate, thresholds_eq built, observed]

end Meaning
end Store
end Telemetry
