import Telemetry.Broker.Consumer
import Telemetry.Broker.Publisher
import Telemetry.Instrumentation
import Telemetry.Migration
import Telemetry.Store.Client
import Telemetry.Supervision

/-!
# The service

The whole program: settings and instrumentation first, then the store, which is migrated before it
is asked whether it answers, then the broker and its stream, and at last a supervised worker.  The
first of these steps that fails ends the program.
-/

namespace Telemetry
namespace Service

/-- What the service asks of its surroundings. -/
inductive Call where
  /-- Write a line to the error output. -/
  | complain (line : String)
  | log (line : Log.Line)
  | migrate (request : Migration.Call)
  | store (request : Store.Call)
  /-- Connect to the broker, with a time limit in seconds. -/
  | connect (url : String) (timeout : Nat)
  | provision (request : Broker.Stream.Call)
  | attach (config : Broker.Consumer.Config)
  /-- Supervise the worker, which writes what it consumes to a table. -/
  | serve (access : Store.Access) (table : String) (config : Broker.Consumer.Config)
      (plan : Supervision.Plan)

/-- The reply to each call. -/
abbrev Call.Reply : Call → Type
  | .complain _ => Unit
  | .log _ => Unit
  | .migrate request => request.Reply
  | .store request => request.Reply
  | .connect _ _ => Except Report Unit
  | .provision request => request.Reply
  | .attach _ => Except Report Unit
  | .serve _ _ _ _ => Supervision.Conclusion

/-- The surroundings of the service. -/
abbrev interface : Interface := ⟨Call, Call.Reply⟩

/-- The part of the program that the service's own lines name. -/
def target : String := "telemetry_all_in_one"

/-- Write a line to the log. -/
def log (level : Log.Level) (message : String) : Dialogue interface Unit :=
  .call (.log { target, level, message, details := [] }) .done

/-- Write lines to the error output. -/
def complainAll : List String → Dialogue interface Unit
  | [] => .done ()
  | line :: rest => .call (.complain line) fun () => complainAll rest

/-- How the store is reached. -/
def accessOf (settings : Settings) : Store.Access :=
  { url := settings.storeUrl
    database := settings.database
    user := settings.storeUser
    password := settings.storePassword }

/-- The tool that migrates the store. -/
def toolOf (settings : Settings) : Migration.Tool :=
  .ofStore settings.migrationTool settings.migrationsDirectory settings.storeNativeAddress
    settings.database settings.storeUser settings.storePassword

/-- The worker's consumer. -/
def consumerOf (settings : Settings) : Broker.Consumer.Config :=
  { stream := settings.stream
    name := settings.consumerName
    filter := settings.subject
    batchSize := settings.batchSize
    maxWait := settings.batchWait }

/-- What is supervised: the worker, and a closer for the broker's connection. -/
def planOf (settings : Settings) : Supervision.Plan :=
  { processes := ["analytics_worker"]
    closers := 1
    closerTimeout := settings.shutdownTimeout * 1000 }

/-- Carry on after a step that may fail. -/
def orElseStop {α β : Type} (step : Dialogue interface (Except Report α))
    (next : α → Dialogue interface (Except Report β)) : Dialogue interface (Except Report β) :=
  step.bind fun
    | .error report => .done (.error report)
    | .ok value => next value

/-- The part of the program that the lines about migrations name. -/
def migrationTarget : String := "goose"

/-- The line before the store is migrated, which tells the directory and the driver. -/
def migrating : Log.Line :=
  { target := migrationTarget
    level := .info
    message := "running migrations"
    details := ["dir", "driver"] }

/-- The line after the store is migrated, with what the tool has printed. -/
def migrated (output : String) : Log.Line :=
  { target := migrationTarget
    level := .debug
    message := "migrations completed successfully:\n" ++ output
    details := [] }

/-- Migrate the store. -/
def migrate (settings : Settings) : Dialogue interface (Except Report Unit) :=
  .call (.log migrating) fun () =>
    orElseStop
      (((toolOf settings).run .up).through fun request => .call (.migrate request) .done)
      fun output => .call (.log (migrated output)) fun () => .done (.ok ())

/-- Migrate the store and see whether it answers. -/
def prepareStore (settings : Settings) : Dialogue interface (Except Report Unit) :=
  orElseStop (migrate settings) fun () =>
    (Store.ping (accessOf settings)).through fun request => .call (.store request) .done

/-- Connect to the broker and make sure of the stream. -/
def prepareBroker (settings : Settings) : Dialogue interface (Except Report Unit) :=
  orElseStop (.call (.connect settings.brokerUrl settings.startupTimeout) .done)
    fun () =>
      (Broker.Stream.ensure settings.stream).through fun request =>
        .call (.provision request) .done

/-- Prepare the store, then the broker. -/
def prepare (settings : Settings) : Dialogue interface (Except Report Unit) :=
  (log .info "Initializing ClickHouse...").bind fun () =>
    orElseStop (prepareStore settings) fun () =>
      (log .info "Initializing NATS...").bind fun () => prepareBroker settings

/-- End with an error in the log. -/
def fail (what : String) (report : Report) : Dialogue interface Nat :=
  (log .error (what ++ ": " ++ report.message)).bind fun () => .done 1

/-- Supervise an attached worker to its end. -/
def serve (settings : Settings) : Dialogue interface Nat :=
  .call (.attach (consumerOf settings)) fun
    | .error report => fail "Failed to initialize analytics worker" report
    | .ok () =>
        .call (.serve (accessOf settings) settings.table (consumerOf settings) (planOf settings))
          fun conclusion => .done conclusion.exitCode

/-- The first line of the log, which tells where spans are sent. -/
def starting : Log.Line :=
  { target
    level := .info
    message := "Starting telemetry-all-in-one service"
    details := ["otel_enabled", "otel_endpoint"] }

/-- Run with settings, and return the exit code. -/
def run (settings : Settings) : Dialogue interface Nat :=
  .call (.log starting) fun () =>
    (prepare settings).bind fun
      | .error report => fail "Failed to initialize shared dependencies" report
      | .ok () => serve settings

/-- The complaint about a part of a filter that cannot be read. -/
def ignoring (part : String) (problem : Log.DirectiveProblem) : String :=
  "ignoring \x60" ++ part ++ "\x60: " ++ problem.message

/-- Let only those lines through to the log that a filter admits. -/
def filtered (filter : Log.Filter) {α : Type} : Dialogue interface α → Dialogue interface α
  | .done result => .done result
  | .call (.log line) next =>
      if filter.admits line then
        .call (.log line) fun reply => filtered filter (next reply)
      else
        filtered filter (next ())
  | .call request next => .call request fun reply => filtered filter (next reply)

/-- Run in an environment, and return the exit code. -/
def start (environment : List (String × String)) : Dialogue interface Nat :=
  match Settings.ofEnvironment environment with
  | .error mismatch =>
      .call (.complain ("Failed to load configuration: " ++ mismatch.message)) fun () => .done 1
  | .ok settings =>
      let instrumentation := Instrumentation.ofSettings settings
      let (filter, unread) := instrumentation.filter environment
      (complainAll (unread.map fun (part, problem) => ignoring part problem)).bind fun () =>
        match instrumentation.check environment with
        | .error report =>
            .call (.complain ("Failed to initialize telemetry: " ++ report.message)) fun () =>
              .done 1
        | .ok () => filtered filter (run settings)

end Service
end Telemetry
