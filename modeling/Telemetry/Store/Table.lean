import Telemetry.Histogram.Aggregate
import Telemetry.Histogram.Fill
import Telemetry.Histogram.Statement
import Telemetry.Store.Row

/-!
# Evaluating statements

What a histogram statement means over a table of rows: its placeholders take the bound values in the
order of the text, and the clauses of the text select, group and count.
-/

namespace Telemetry
namespace Store

open Histogram

/-- The values of a statement's placeholders, by role. -/
abbrev Bindings := List (Role × Parameter)

/-- The parameters in the order of the placeholders. -/
def bindingsOf (statement : Statement) : Bindings :=
  statement.shape.roles.zip statement.parameters

namespace Bindings

/-- The value of a placeholder. -/
def value? (bindings : Bindings) (role : Role) : Option Parameter :=
  (bindings.find? fun binding => binding.1 == role).map Prod.snd

/-- The text of a placeholder. -/
def text? (bindings : Bindings) (role : Role) : Option String :=
  match bindings.value? role with
  | some (.text value) => some value
  | _ => none

/-- The integer of a placeholder. -/
def integer? (bindings : Bindings) (role : Role) : Option Int :=
  match bindings.value? role with
  | some (.integer value) => some value
  | _ => none

/-- The list of a placeholder. -/
def texts? (bindings : Bindings) (role : Role) : Option (List String) :=
  match bindings.value? role with
  | some (.texts values) => some values
  | _ => none

/-- The texts of numbered placeholders. -/
def path (bindings : Bindings) (count : Nat) (role : Nat → Role) : List String :=
  (List.range count).filterMap fun index => bindings.text? (role index)

/-- The doubles of the threshold placeholders. -/
def thresholds (bindings : Bindings) (count : Nat) : List Double :=
  (List.range count).filterMap fun index =>
    match bindings.value? (.threshold index) with
    | some (.double value) => some value
    | _ => none

end Bindings

/-- The clauses that a row has to meet. -/
def selects (statement : Statement) (row : Row) : Bool :=
  let bindings := bindingsOf statement
  bindings.text? .organization == some row.organization &&
    (bindings.integer? .rangeStart).any (· ≤ row.occurredAt) &&
    (bindings.integer? .rangeStop).any (row.occurredAt < ·) &&
    (!statement.shape.filtersDevices ||
      (bindings.texts? .devices).any (·.contains row.device)) &&
    (row.payload.numberAt? (bindings.path statement.shape.segments .typeSegment)).isSome

/-- The value of a selected row. -/
def valueOf (statement : Statement) (row : Row) : Double :=
  (row.payload.numberAt?
    ((bindingsOf statement).path statement.shape.segments .valueSegment)).getD Double.zero

/-- The rows of a histogram statement over a table. -/
def evaluate (statement : Statement) (rows : List Row) : List Histogram.Row :=
  aggregate ((bindingsOf statement).thresholds statement.shape.thresholds)
    ((rows.filter (selects statement)).map fun row =>
      { opening := alignedStart statement.shape.interval (row.occurredAt / 1000)
        value := valueOf statement row })

end Store
end Telemetry
