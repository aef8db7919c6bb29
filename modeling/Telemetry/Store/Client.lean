import Telemetry.Dialogue
import Telemetry.Failure
import Telemetry.Histogram.Fill
import Telemetry.Store.Address
import Telemetry.Store.Placeholder
import Telemetry.Store.Row

/-!
# The store's client

A batch is one insert: it is opened, given one row for each record in order, and finished; a failure
anywhere fails the whole batch.  A histogram query is one statement whose rows are spread over the
windows of the range.
-/

namespace Telemetry
namespace Store

/-- What the client asks of the endpoint. -/
inductive Call where
  /-- Send a statement whose rows do not matter. -/
  | ping (statement : String)
  /-- Send a histogram statement. -/
  | select (statement : String)
  /-- Open an insert into a table, whose columns a statement asks for. -/
  | openInsert (table description : String)
  /-- Hand a row to the open insert. -/
  | write (row : Row)
  /-- Finish the open insert. -/
  | finish

/-- The reply to each call. -/
abbrev Call.Reply : Call → Type
  | .ping _ => Except Fault Unit
  | .select _ => Except Fault (List Histogram.Row)
  | .openInsert _ _ => Except Fault Unit
  | .write _ => Except Fault Unit
  | .finish => Except Fault Unit

/-- The endpoint as the client sees it. -/
abbrev interface : Interface := ⟨Call, Call.Reply⟩

/-- The names of columns, quoted, with commas between them. -/
def columnList (names : List String) : String :=
  ",".intercalate (names.map quotedName)

/-- The columns of a histogram row. -/
def histogramColumns : String :=
  columnList ["bucket_start", "total_count", "value_sum", "bucket_counts"]

/-- The columns of a table's description. -/
def descriptionColumns : String :=
  columnList
    ["name", "type", "default_type", "default_expression", "comment", "codec_expression",
      "ttl_expression"]

/-- A fault as a failure of the store. -/
def Fault.toFailure (fault : Fault) : Failure :=
  .store (.of (.endpoint fault))

/-- The statement that only wants an answer. -/
def question : String := "SELECT 1"

/-- See whether the store answers. -/
def ping (access : Access) : Dialogue interface (Except Report Unit) :=
  let explain (outcome : Except Fault Unit) : Except Report Unit :=
    outcome.mapError fun fault => (Report.of (.endpoint fault)).context "ClickHouse ping failed"
  match access.check (.of question) with
  | .error fault => .done (explain (.error fault))
  | .ok () => .call (.ping question) fun outcome => .done (explain outcome)

/-- The statement that asks for a table's columns, ready to be sent. -/
def describe (access : Access) (table : String) : Except Fault String := do
  let statement ← bind ("DESCRIBE TABLE " ++ quotedName table) descriptionColumns []
  access.check ⟨statement, [("describe_include_subcolumns", "0")]⟩
  .ok statement

/-- Hand rows to the open insert, one after the other, and finish it. -/
def writeRows : List Row → Dialogue interface (Except Fault Unit)
  | [] => .call .finish .done
  | row :: rest =>
      .call (.write row) fun
        | .error fault => .done (.error fault)
        | .ok () => writeRows rest

/-- Store records in one insert; without records nothing is asked. -/
def store (access : Access) (table : String) (records : List Record) :
    Dialogue interface (Except Failure Unit) :=
  if records.isEmpty then
    .done (.ok ())
  else
    match describe access table with
    | .error fault => .done (.error fault.toFailure)
    | .ok description =>
        .call (.openInsert table description) fun
          | .error fault => .done (.error fault.toFailure)
          | .ok () =>
              (writeRows (records.map Record.toRow)).bind fun outcome =>
                .done (outcome.mapError Fault.toFailure)

/-- The text that is sent for a histogram query. -/
def selection (access : Access) (statement : Histogram.Statement) : Except Fault String := do
  let text ← bind statement.shape.sql histogramColumns statement.parameters
  access.check (.of text)
  .ok text

/-- The windows of a histogram query. -/
def windows (access : Access) (table : String) (query : Histogram.Query) :
    Dialogue interface (Except Failure (List Histogram.Window)) :=
  match query.statement table with
  | .error failure => .done (.error failure)
  | .ok statement =>
      match selection access statement with
      | .error fault => .done (.error fault.toFailure)
      | .ok text =>
          .call (.select text) fun
            | .error fault => .done (.error fault.toFailure)
            | .ok rows => .done (query.fill rows)

end Store
end Telemetry
