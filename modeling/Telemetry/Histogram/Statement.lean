import Telemetry.Histogram.FieldPath
import Telemetry.Histogram.Window

/-!
# The store's statement

A histogram query becomes one SQL statement with placeholders and the values bound to them.  The
text depends only on the `Shape`: the table, the interval and how many of each kind of value there
are.  Every value that a caller chose is a parameter.
-/

namespace Telemetry
namespace Histogram

/-- A value bound to a placeholder. -/
inductive Parameter where
  | text (value : String)
  | texts (values : List String)
  | double (value : Double)
  | integer (value : Int)
  deriving DecidableEq, Repr

/-- What a placeholder stands for. -/
inductive Role where
  | threshold (index : Nat)
  /-- A segment of the path that values are taken from. -/
  | valueSegment (index : Nat)
  | organization
  | rangeStart
  | rangeStop
  | devices
  /-- A segment of the path whose type must be numeric. -/
  | typeSegment (index : Nat)
  deriving DecidableEq, Repr

/-- A piece of a statement's text. -/
inductive Fragment where
  | text (content : String)
  | placeholder (role : Role)
  deriving DecidableEq, Repr

/-- The text of a fragment. -/
def Fragment.sql : Fragment → String
  | .text content => content
  | .placeholder _ => "?"

/-- The role of a fragment, if it is a placeholder. -/
def Fragment.role? : Fragment → Option Role
  | .text _ => none
  | .placeholder role => some role

/-- Fragments with a text between them. -/
def separated (separator : String) : List Fragment → List Fragment
  | [] => []
  | [fragment] => [fragment]
  | fragment :: next :: rest => fragment :: .text separator :: separated separator (next :: rest)

/-- All that the text of a statement depends on. -/
structure Shape where
  table : String
  /-- The length of a window in seconds. -/
  interval : Nat
  thresholds : Nat
  segments : Nat
  filtersDevices : Bool
  deriving DecidableEq, Repr

namespace Shape

/-- The counts by threshold, as an array even when there are none. -/
def countFragments (shape : Shape) : List Fragment :=
  if shape.thresholds = 0 then
    [.text "CAST([], 'Array(UInt64)')"]
  else
    .text "[countIf(value <= " ::
      separated "), countIf(value <= "
        ((List.range shape.thresholds).map fun index => .placeholder (.threshold index)) ++
      [.text ")]"]

/-- The placeholders of a path. -/
def pathFragments (shape : Shape) (role : Nat → Role) : List Fragment :=
  separated ", " ((List.range shape.segments).map fun index => .placeholder (role index))

/-- The pieces of the statement's text, in order. -/
def fragments (shape : Shape) : List Fragment :=
  [.text ("SELECT toInt64(toUnixTimestamp(toStartOfInterval(occurred_at, INTERVAL " ++
    toString shape.interval ++
    " SECOND))) AS bucket_start, count() AS total_count, sum(value) AS value_sum, ")] ++
  shape.countFragments ++
  [.text " AS bucket_counts FROM (SELECT occurred_at, JSONExtractFloat(data, "] ++
  shape.pathFragments .valueSegment ++
  [.text ") AS value FROM ", .text shape.table, .text " WHERE organization_id = ",
    .placeholder .organization, .text " AND occurred_at >= fromUnixTimestamp64Milli(toInt64(",
    .placeholder .rangeStart, .text ")) AND occurred_at < fromUnixTimestamp64Milli(toInt64(",
    .placeholder .rangeStop, .text "))"] ++
  (if shape.filtersDevices then
    [.text " AND has(", .placeholder .devices, .text ", end_device_id)"]
  else
    []) ++
  [.text " AND JSONType(data, "] ++
  shape.pathFragments .typeSegment ++
  [.text ") IN ('Int64', 'UInt64', 'Double')) GROUP BY bucket_start ORDER BY bucket_start"]

/-- The text of the statement. -/
def sql (shape : Shape) : String :=
  String.join (shape.fragments.map Fragment.sql)

/-- The roles of the placeholders, in the order of the text. -/
def roles (shape : Shape) : List Role :=
  shape.fragments.filterMap Fragment.role?

end Shape

/-- A statement and the values bound to its placeholders, in order. -/
structure Statement where
  shape : Shape
  parameters : List Parameter
  deriving DecidableEq, Repr

/-- The statement of a query against a table. -/
def Query.statement (query : Query) (table : String) : Except Failure Statement := do
  let path ← FieldPath.segments query.path
  if query.interval = 0 then
    .error (.rejected .noInterval)
  else
    let segments := path.map Parameter.text
    .ok
      { shape :=
          { table
            interval := query.interval
            thresholds := query.thresholds.length
            segments := path.length
            filtersDevices := !query.devices.isEmpty }
        parameters :=
          query.thresholds.map .double ++ segments ++
            [.text query.organization, .integer query.start.millis, .integer query.stop.millis] ++
            (if query.devices.isEmpty then [] else [.texts query.devices]) ++ segments }

end Histogram
end Telemetry
