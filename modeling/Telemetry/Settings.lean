import Telemetry.Settings.Variable
import Telemetry.Text.Visible

/-!
# Settings

Every setting has a default and can be set by an environment variable.  Numbers and flags may be
written as words; a value that cannot be read is an error that names the setting.
-/

namespace Telemetry

/-- The settings of the service. -/
structure Settings where
  logLevel : String
  brokerUrl : String
  stream : String
  /-- The subjects that the consumer gets. -/
  subject : String
  consumerName : String
  batchSize : Nat
  /-- The longest wait of a fetch, in seconds. -/
  batchWait : Nat
  /-- The longest wait for the broker's connection, in seconds. -/
  startupTimeout : Nat
  storeUrl : String
  /-- The address that migrations use. -/
  storeNativeAddress : String
  database : String
  storeUser : String
  storePassword : String
  table : String
  migrationsDirectory : String
  migrationTool : String
  traceEndpoint : String
  traceEnabled : Bool
  serviceName : String
  /-- The time limit of the closers, in seconds. -/
  shutdownTimeout : Nat
  deriving DecidableEq, Repr

namespace Settings

/-- The settings of an empty environment. -/
def default : Settings :=
  { logLevel := "info"
    brokerUrl := "nats://localhost:4222"
    stream := "processed_envelopes"
    subject := "processed_envelopes.>"
    consumerName := "analytics_worker"
    batchSize := 30
    batchWait := 5
    startupTimeout := 30
    storeUrl := "http://localhost:8123"
    storeNativeAddress := "localhost:9000"
    database := "telemetry"
    storeUser := "telemetry"
    storePassword := "telemetry"
    table := "processed_envelopes"
    migrationsDirectory := "/home/telemetry/migrations/clickhouse"
    migrationTool := "goose"
    traceEndpoint := "http://localhost:4317"
    traceEnabled := false
    serviceName := "telemetry-all-in-one"
    shutdownTimeout := 10 }

/-- The names of the settings. -/
def names : List String :=
  ["log_level", "nats_url", "processed_envelopes_stream", "processed_envelopes_subject",
    "analytics_consumer_name", "nats_batch_size", "nats_batch_wait_secs", "startup_timeout_secs",
    "clickhouse_url", "clickhouse_native_url", "clickhouse_database", "clickhouse_username",
    "clickhouse_password", "clickhouse_table", "clickhouse_migrations_dir",
    "clickhouse_goose_binary_path", "otel_endpoint", "otel_enabled", "otel_service_name",
    "shutdown_timeout_secs"]

/-- The usual variable of a setting. -/
def variableOf (name : String) : String :=
  (namesPrefix ++ name).toUpper

/-- What kind of value a setting has. -/
inductive Kind where
  | text
  | integer
  | flag
  deriving DecidableEq, Repr

/-- The wording of a kind. -/
def Kind.wording : Kind → String
  | .text => "a string"
  | .integer => "an integer"
  | .flag => "a boolean"

/-- What is given is not of the kind that a setting has. -/
structure Mismatch where
  name : String
  kind : Kind
  found : Given
  deriving DecidableEq, Repr

/-- The wording of a mismatch; a flag's text is quoted in lower case. -/
def Mismatch.message (mismatch : Mismatch) : String :=
  let expected :=
    ", expected " ++ mismatch.kind.wording ++ " for key \x60" ++ mismatch.name ++ "\x60"
  match mismatch.found with
  | .text value =>
      let quoted := if mismatch.kind = .flag then lowerCase value else value
      "invalid type: string " ++ showText quoted ++ expected ++ " in the environment"
  | .table => "invalid type: map" ++ expected
  | .list => "invalid type: sequence" ++ expected

/-- One more than the largest number of a setting. -/
def numberLimit : Nat := 0x10000000000000000

/-- Read a number, which may be one of the words for one and zero. -/
def readNumber? (text : String) : Option Nat :=
  let word := lowerCase text
  if ["true", "on", "yes"].contains word then some 1
  else if ["false", "off", "no"].contains word then some 0
  else readDecimal? numberLimit text.toList

/-- Read a flag. -/
def readFlag? (text : String) : Option Bool :=
  let word := lowerCase text
  if ["1", "true", "on", "yes"].contains word then some true
  else if ["0", "false", "off", "no"].contains word then some false
  else none

/-- The value of a setting: the default, or what can be read from what is given. -/
def value {α : Type} (kind : Kind) (read : String → Option α) (entries : List (String × Given))
    (name : String) (fallback : α) : Except Mismatch α :=
  match Keyed.find? name entries with
  | none => .ok fallback
  | some found =>
      match found with
      | .text text =>
          match read text with
          | some value => .ok value
          | none => .error ⟨name, kind, found⟩
      | .table | .list => .error ⟨name, kind, found⟩

/-- Read the settings from an environment. -/
def ofEnvironment (environment : List (String × String)) : Except Mismatch Settings := do
  let entries := given environment
  let text := value .text some entries
  let number := value .integer readNumber? entries
  let flag := value .flag readFlag? entries
  .ok
    { logLevel := ← text "log_level" default.logLevel
      brokerUrl := ← text "nats_url" default.brokerUrl
      stream := ← text "processed_envelopes_stream" default.stream
      subject := ← text "processed_envelopes_subject" default.subject
      consumerName := ← text "analytics_consumer_name" default.consumerName
      batchSize := ← number "nats_batch_size" default.batchSize
      batchWait := ← number "nats_batch_wait_secs" default.batchWait
      startupTimeout := ← number "startup_timeout_secs" default.startupTimeout
      storeUrl := ← text "clickhouse_url" default.storeUrl
      storeNativeAddress := ← text "clickhouse_native_url" default.storeNativeAddress
      database := ← text "clickhouse_database" default.database
      storeUser := ← text "clickhouse_username" default.storeUser
      storePassword := ← text "clickhouse_password" default.storePassword
      table := ← text "clickhouse_table" default.table
      migrationsDirectory := ← text "clickhouse_migrations_dir" default.migrationsDirectory
      migrationTool := ← text "clickhouse_goose_binary_path" default.migrationTool
      traceEndpoint := ← text "otel_endpoint" default.traceEndpoint
      traceEnabled := ← flag "otel_enabled" default.traceEnabled
      serviceName := ← text "otel_service_name" default.serviceName
      shutdownTimeout := ← number "shutdown_timeout_secs" default.shutdownTimeout }

end Settings
end Telemetry
