import Telemetry.Dialogue
import Telemetry.Failure

/-!
# Migrations

The schema of the store is kept by a tool of its own, which is run as a command.  What it prints is
its answer when it ends well and part of the error when it does not.
-/

namespace Telemetry
namespace Migration

/-- Where the tool is and what it works on. -/
structure Tool where
  program : String
  /-- The directory of the migrations. -/
  directory : String
  driver : String
  /-- The name of the data source. -/
  source : String
  deriving DecidableEq, Repr

/-- The tool for a store that is reached by its native protocol. -/
def Tool.ofStore (program directory address database user password : String) : Tool :=
  { program
    directory
    driver := "clickhouse"
    source := "clickhouse://" ++ user ++ ":" ++ password ++ "@" ++ address ++ "/" ++ database }

/-- What the tool can do. -/
inductive Action where
  /-- Apply every pending migration. -/
  | up
  /-- Take back the most recent migration. -/
  | down
  /-- Say which migrations are applied. -/
  | status
  deriving DecidableEq, Repr

/-- The word for an action. -/
def Action.word : Action → String
  | .up => "up"
  | .down => "down"
  | .status => "status"

/-- The command that does an action. -/
def Tool.command (tool : Tool) (action : Action) : Command :=
  { program := tool.program
    arguments := ["-dir", tool.directory, tool.driver, tool.source, action.word] }

/-- What a migration asks of the system. -/
inductive Call where
  /-- Run a command to its end. -/
  | execute (command : Command)

/-- The reply to each call. -/
abbrev Call.Reply : Call → Type
  | .execute _ => Except StartProblem Output

/-- The system as a migration sees it. -/
abbrev interface : Interface := ⟨Call, Call.Reply⟩

/-- What has been printed, if the tool ended well. -/
def conclude (action : Action) (output : Output) : Except Report String :=
  if output.status.success then
    .ok (lossyText output.output)
  else
    .error (.of (.migration action.word output.status (lossyText output.output)
      (lossyText output.errors)))

/-- A start problem as a report. -/
def Tool.unstartable (tool : Tool) (problem : StartProblem) : Report :=
  (Report.of (.unstartable problem)).context ("failed to execute " ++ tool.program)

/-- Do an action and return what the tool prints. -/
def Tool.run (tool : Tool) (action : Action) : Dialogue interface (Except Report String) :=
  if (tool.command action).passable then
    .call (.execute (tool.command action)) fun
      | .error problem => .done (.error (tool.unstartable problem))
      | .ok output => .done (conclude action output)
  else
    .done (.error (tool.unstartable .unpassable))

/-- Do an action whose output does not matter. -/
def Tool.perform (tool : Tool) (action : Action) : Dialogue interface (Except Report Unit) :=
  (tool.run action).bind fun result => .done (result.map fun _ => ())

end Migration
end Telemetry
