import Telemetry.Proofs.Histogram.Binding

/-!
# Each value in its place

The text of a statement has one question mark for each parameter.  With the parameters written in
the places of the marks, one after the other, it is the text that one would write for the query by
hand, in which each value stands in its own clause.  Nothing else of a query but its interval is in
the text.
-/

namespace Telemetry
namespace Histogram

/-- A text with its question marks replaced, one after the other, by some values. -/
def fillMarks : List Char → List String → List Char
  | [], _ => []
  | character :: rest, values =>
      if character = '?' then
        (values.headD "?").toList ++ fillMarks rest values.tail
      else
        character :: fillMarks rest values

theorem fillMarks_append_of_plain {content : List Char} (plain : '?' ∉ content) (rest : List Char)
    (values : List String) :
    fillMarks (content ++ rest) values = content ++ fillMarks rest values := by
  induction content with
  | nil => rfl
  | cons character content ih =>
      obtain ⟨other, plain⟩ := List.ne_and_not_mem_of_not_mem_cons plain
      rw [List.cons_append, fillMarks, if_neg other.symm, ih plain, List.cons_append]

namespace Query

section Spelled

variable (query : Query) (table : String) (write : Parameter → String)

/-- The counts by threshold as one writes them, a clause for each threshold. -/
def spelledCounts : String :=
  if query.thresholds = [] then
    "CAST([], 'Array(UInt64)')"
  else
    "[" ++ ", ".intercalate (query.thresholds.map fun bound =>
      "countIf(value <= " ++ write (.double bound) ++ ")") ++ "]"

/-- The path as one writes it, a key for each segment. -/
def spelledPath : String :=
  ", ".intercalate ((FieldPath.split query.path).map fun segment => write (.text segment))

/-- The condition on devices as one writes it, none if no device is asked for. -/
def spelledDevices : String :=
  if query.devices = [] then
    ""
  else
    " AND has(" ++ write (.texts query.devices) ++ ", end_device_id)"

/-- The statement as one writes it for a query. -/
def spelled : String :=
  String.join
    ["SELECT toInt64(toUnixTimestamp(toStartOfInterval(occurred_at, INTERVAL ",
      toString query.interval,
      " SECOND))) AS bucket_start, count() AS total_count, sum(value) AS value_sum, ",
      query.spelledCounts write,
      " AS bucket_counts FROM (SELECT occurred_at, JSONExtractFloat(data, ",
      query.spelledPath write,
      ") AS value FROM ",
      table,
      " WHERE organization_id = ",
      write (.text query.organization),
      " AND occurred_at >= fromUnixTimestamp64Milli(toInt64(",
      write (.integer query.start.millis),
      ")) AND occurred_at < fromUnixTimestamp64Milli(toInt64(",
      write (.integer query.stop.millis),
      "))",
      query.spelledDevices write,
      " AND JSONType(data, ",
      query.spelledPath write,
      ") IN ('Int64', 'UInt64', 'Double')) GROUP BY bucket_start ORDER BY bucket_start"]

end Spelled

end Query
end Histogram

namespace Store

open Histogram

/-- Tidy fragments have no question marks but their placeholders. -/
theorem count_marks {fragments : List Fragment} (tidy : Tidy fragments) :
    (sqlOf fragments).count '?' = (fragments.filterMap Fragment.role?).length := by
  induction fragments with
  | nil => rfl
  | cons fragment rest ih =>
      cases fragment with
      | text content =>
          rw [sqlOf_text, List.count_append, List.count_eq_zero_of_not_mem tidy.1, Nat.zero_add,
            ih tidy.2]
          rfl
      | placeholder role =>
          rw [sqlOf_placeholder, List.count_cons_self, ih tidy.2]
          rfl

theorem fillMarks_eq_render {fragments : List Fragment} (tidy : Tidy fragments)
    {values : List String}
    (matched : (fragments.filterMap Fragment.role?).length = values.length) :
    fillMarks (sqlOf fragments) values = render fragments values := by
  induction fragments generalizing values with
  | nil => rfl
  | cons fragment rest ih =>
      cases fragment with
      | text content =>
          rw [sqlOf_text, fillMarks_append_of_plain tidy.1, ih tidy.2 matched, render]
      | placeholder role =>
          cases values with
          | nil => cases matched
          | cons value values =>
              rw [sqlOf_placeholder, fillMarks, if_pos rfl, render, List.tail_cons,
                ih tidy.2 (Nat.succ.inj matched)]
              rfl

/-- Fragments take as many of the values as they have placeholders. -/
theorem render_append {first : List Fragment} {values : List String}
    (matched : (first.filterMap Fragment.role?).length = values.length) (second : List Fragment)
    (others : List String) :
    render (first ++ second) (values ++ others) = render first values ++ render second others := by
  induction first generalizing values with
  | nil =>
      obtain rfl := List.length_eq_zero_iff.mp matched.symm
      rfl
  | cons fragment rest ih =>
      cases fragment with
      | text content => rw [List.cons_append, render, render, ih matched, List.append_assoc]
      | placeholder role =>
          cases values with
          | nil => cases matched
          | cons value values =>
              rw [List.cons_append, List.cons_append, render, render, List.tail_cons,
                List.tail_cons, ih (Nat.succ.inj matched), List.append_assoc]
              rfl

theorem render_separated (separator : String) {roles : List Role} {values : List String}
    (matched : roles.length = values.length) :
    render (separated separator (roles.map .placeholder)) values =
      (separator.intercalate values).toList := by
  rw [String.toList_intercalate]
  induction roles generalizing values with
  | nil =>
      obtain rfl := List.length_eq_zero_iff.mp matched.symm
      rfl
  | cons role rest ih =>
      cases values with
      | nil => cases matched
      | cons value values =>
          have matched := Nat.succ.inj matched
          cases rest with
          | nil =>
              obtain rfl := List.length_eq_zero_iff.mp matched.symm
              simp [separated, render]
          | cons next rest =>
              cases values with
              | nil => cases matched
              | cons other values =>
                  have step := ih matched
                  simp only [List.map_cons] at step
                  simp [separated, render, step]

theorem render_numbered_append (separator : String) {count : Nat} (role : Nat → Role)
    {values : List String} (matched : count = values.length) (rest : List Fragment)
    (others : List String) :
    render (separated separator ((List.range count).map fun index => .placeholder (role index)) ++
        rest) (values ++ others) =
      (separator.intercalate values).toList ++ render rest others := by
  have counted : (numbered count role).length = values.length := by
    rw [numbered, List.length_map, List.length_range, matched]
  rw [← render_separated separator counted, ← render_append, numbered, List.map_map]
  · rfl
  · rw [filterMap_role_separated, ← counted, numbered, List.map_map]
    exact congrArg List.length (filterMap_role_placeholders count role)

theorem intercalate_enclosed (opening closing separator : String) {texts : List String}
    (inhabited : texts ≠ []) :
    separator.intercalate (texts.map fun text => opening ++ text ++ closing) =
      opening ++ (closing ++ separator ++ opening).intercalate texts ++ closing := by
  induction texts with
  | nil => exact absurd rfl inhabited
  | cons text rest ih =>
      cases rest with
      | nil => simp
      | cons next rest =>
          have step := ih (List.cons_ne_nil next rest)
          rw [List.map_cons] at step
          rw [List.map_cons, List.map_cons, String.intercalate_cons_cons, step,
            String.intercalate_cons_cons]
          simp only [String.append_assoc]

section Meaning

variable {query : Query} {table : String} {statement : Statement}

theorem render_countFragments_append {shape : Shape}
    (counted : shape.thresholds = query.thresholds.length) (write : Parameter → String)
    (rest : List Fragment) (others : List String) :
    render (shape.countFragments ++ rest)
        (query.thresholds.map (fun bound => write (.double bound)) ++ others) =
      (query.spelledCounts write).toList ++ render rest others := by
  rw [Shape.countFragments, Query.spelledCounts, counted]
  by_cases none : query.thresholds = []
  · simp [none, render]
  · have inhabited : query.thresholds.map (fun bound => write (.double bound)) ≠ [] := by
      simpa using none
    have clauses : ", ".intercalate (query.thresholds.map fun bound =>
          "countIf(value <= " ++ write (.double bound) ++ ")") =
        "countIf(value <= " ++ (")" ++ ", " ++ "countIf(value <= ").intercalate
          (query.thresholds.map fun bound => write (.double bound)) ++ ")" := by
      rw [← intercalate_enclosed _ _ _ inhabited, List.map_map]
      rfl
    have between : ")" ++ ", " ++ "countIf(value <= " = "), countIf(value <= " := by
      decide +kernel
    have opened : "[countIf(value <= " = "[" ++ "countIf(value <= " := by decide +kernel
    have closed : ")]" = ")" ++ "]" := by decide +kernel
    rw [if_neg (by simpa using none), if_neg none, opened, closed, clauses, between]
    simp only [List.append_assoc, List.cons_append, List.nil_append, render]
    rw [render_numbered_append _ _ (by rw [List.length_map]), render]
    simp only [String.toList_append, List.append_assoc]

theorem render_pathFragments_append {shape : Shape}
    (counted : shape.segments = (FieldPath.split query.path).length) (role : Nat → Role)
    (write : Parameter → String) (rest : List Fragment) (others : List String) :
    render (shape.pathFragments role ++ rest)
        ((FieldPath.split query.path).map (fun segment => write (.text segment)) ++ others) =
      (query.spelledPath write).toList ++ render rest others := by
  rw [Shape.pathFragments, counted, render_numbered_append _ _ (by rw [List.length_map]),
    Query.spelledPath]

theorem render_devices_append (write : Parameter → String) (rest : List Fragment)
    (others : List String) :
    render ((if (!query.devices.isEmpty) = true then
          [.text " AND has(", .placeholder .devices, .text ", end_device_id)"]
        else
          []) ++ rest)
        ((if query.devices.isEmpty = true then [] else [Parameter.texts query.devices]).map write ++
          others) =
      (query.spelledDevices write).toList ++ render rest others := by
  rw [Query.spelledDevices]
  by_cases none : query.devices = []
  · simp [none]
  · have named : query.devices.isEmpty = false := by simpa using none
    simp [none, named, render]

/-- The fragments of a statement with its parameters are the statement as one writes it. -/
theorem render_statement (built : query.statement table = .ok statement)
    (write : Parameter → String) :
    render statement.shape.fragments (statement.parameters.map write) =
      (query.spelled table write).toList := by
  obtain ⟨-, -, rfl⟩ := statement_eq_ok_iff.mp built
  rw [← List.append_nil (List.map write _), Shape.fragments, Query.spelled, String.toList_join]
  simp only [List.map_append, List.map_map, List.map_cons, List.append_assoc, List.cons_append,
    List.nil_append, Function.comp_def, render, String.toList_append, List.flatMap_cons,
    List.flatMap_nil]
  rw [render_countFragments_append rfl]
  simp only [render]
  rw [render_pathFragments_append rfl]
  simp only [render, List.headD_cons, List.tail_cons]
  rw [render_devices_append]
  simp only [render]
  rw [render_pathFragments_append rfl]
  simp only [render]

/-- The text has a mark in the place of each parameter and shows no value but the interval. -/
theorem statement_spells_query (built : query.statement table = .ok statement) :
    ('?' ∉ table.toList →
        statement.shape.sql.toList.count '?' = statement.parameters.length ∧
          ∀ write, fillMarks statement.shape.sql.toList (statement.parameters.map write) =
            (query.spelled table write).toList) ∧
      ∀ other rebuilt, Query.statement other table = .ok rebuilt →
        other.interval = query.interval →
        other.thresholds.length = query.thresholds.length →
        (FieldPath.split other.path).length = (FieldPath.split query.path).length →
        (other.devices = [] ↔ query.devices = []) →
        rebuilt.shape.sql = statement.shape.sql := by
  constructor
  · intro plain
    have tidy : Tidy statement.shape.fragments := by
      apply tidy_fragments
      rwa [shape_eq built]
    rw [toList_sql]
    constructor
    · rw [count_marks tidy]
      exact length_roles_eq built
    · intro write
      rw [← render_statement built]
      apply fillMarks_eq_render tidy
      rw [List.length_map]
      exact length_roles_eq built
  · intro other rebuilt otherBuilt interval thresholds segments devices
    have filters : other.devices.isEmpty = query.devices.isEmpty := by
      rw [Bool.eq_iff_iff, List.isEmpty_iff, List.isEmpty_iff, devices]
    rw [shape_eq built, shape_eq otherBuilt, interval, thresholds, segments, filters]

section Example

/-- A query with two thresholds, a nested path and two devices. -/
def nestedQuery : Query :=
  ⟨"org-1", ["device-1", "device-2"], ⟨7, 0, by decide⟩, ⟨607, 0, by decide⟩, "motor.temp",
    [⟨0x4039800000000000⟩, ⟨0x3FF0000000000000⟩], 300⟩

/-- The same question with values that read like pieces of a statement. -/
def quotedQuery : Query :=
  ⟨"' OR 1 = 1 --", ["?"], ⟨-5, 7, by decide⟩, ⟨10, 0, by decide⟩, "?).a?", [⟨0⟩, ⟨0⟩], 300⟩

/-- A value without quotes, and a double by its bits. -/
def bareValue : Parameter → String
  | .text value => value
  | .texts values => ",".intercalate values
  | .double value => toString value.bits.toNat
  | .integer value => toString value

/-- Both have the same text, and the values of the first stand in their clauses. -/
theorem nested_query_spelled :
    ∃ statement other, nestedQuery.statement "t" = .ok statement ∧
      quotedQuery.statement "t" = .ok other ∧ other.shape.sql = statement.shape.sql ∧
      statement.shape.sql.toList.count '?' = 10 ∧
      fillMarks statement.shape.sql.toList (statement.parameters.map bareValue) =
        (nestedQuery.spelled "t" bareValue).toList ∧
      nestedQuery.spelledCounts bareValue =
        "[countIf(value <= 4627870829588250624), countIf(value <= 4607182418800017408)]" ∧
      nestedQuery.spelledPath bareValue = "motor, temp" ∧
      nestedQuery.spelledDevices bareValue =
        " AND has(device-1,device-2, end_device_id)" := by
  obtain ⟨statement, built⟩ : ∃ statement, nestedQuery.statement "t" = .ok statement := ⟨_, rfl⟩
  obtain ⟨other, otherBuilt⟩ : ∃ other, quotedQuery.statement "t" = .ok other := ⟨_, rfl⟩
  obtain ⟨filled, same⟩ := statement_spells_query built
  obtain ⟨count, spelled⟩ := filled (by decide +kernel)
  refine ⟨statement, other, built, otherBuilt, ?_, ?_, spelled bareValue, ?_⟩
  · exact same quotedQuery other otherBuilt rfl rfl (by decide +kernel) (by decide)
  · have parameters : statement.parameters.length = 10 := by
      rw [← length_roles_eq built, shape_eq built]
      decide +kernel
    rw [count, parameters]
  · decide +kernel

end Example

end Meaning

end Store
end Telemetry
