import Telemetry.Failure
import Telemetry.Log.Filter
import Telemetry.Settings

/-!
# Instrumentation

What a program says about itself: lines of a log, let through by a filter, and spans, which are sent
to an endpoint if that is enabled.
-/

namespace Telemetry

/-- How a program is instrumented. -/
structure Instrumentation where
  serviceName : String
  /-- Where spans are sent. -/
  endpoint : String
  /-- Whether spans are sent. -/
  enabled : Bool
  /-- The text of the log's filter. -/
  logLevel : String
  deriving DecidableEq, Repr

namespace Instrumentation

/-- The instrumentation of a program that does not say how. -/
def default : Instrumentation :=
  { serviceName := "telemetry-pipeline"
    endpoint := "http://localhost:4317"
    enabled := false
    logLevel := "info" }

/-- The instrumentation that settings ask for. -/
def ofSettings (settings : Settings) : Instrumentation :=
  { serviceName := settings.serviceName
    endpoint := settings.traceEndpoint
    enabled := settings.traceEnabled
    logLevel := settings.logLevel }

/-- The variable that comes before the instrumentation's own filter. -/
def filterVariable : String := "RUST_LOG"

/-- The filter that an environment names, if all of it can be read. -/
def filterOf? (environment : List (String × String)) : Option Log.Filter :=
  (environment.lookup filterVariable).bind Log.Filter.ofText?

/-- The log's filter, and the parts of its text that cannot be read, each with the reason. -/
def filter (instrumentation : Instrumentation) (environment : List (String × String)) :
    Log.Filter × List (String × Log.DirectiveProblem) :=
  match filterOf? environment with
  | some filter => (filter, [])
  | none => Log.Filter.ofTextLossy instrumentation.logLevel

/-- The variables that come before the instrumentation's own endpoint. -/
def endpointVariables : List String :=
  ["OTEL_EXPORTER_OTLP_TRACES_ENDPOINT", "OTEL_EXPORTER_OTLP_ENDPOINT"]

/-- The variables that name how spans are packed. -/
def packingVariables : List String :=
  ["OTEL_EXPORTER_OTLP_TRACES_COMPRESSION", "OTEL_EXPORTER_OTLP_COMPRESSION"]

/-- The variables that the instrumentation looks at. -/
def variableNames : List String :=
  filterVariable :: (endpointVariables ++ packingVariables)

/-- The value of the first variable that is set. -/
def firstOf? (environment : List (String × String)) (names : List String) : Option String :=
  names.findSome? fun name => environment.lookup name

/-- Where spans are sent in an environment. -/
def endpointIn (instrumentation : Instrumentation) (environment : List (String × String)) :
    String :=
  (firstOf? environment endpointVariables).getD instrumentation.endpoint

/-- What keeps spans from being sent: they cannot be packed, or the endpoint is no URI. -/
def problemOf? (instrumentation : Instrumentation) (environment : List (String × String)) :
    Option Cause :=
  match firstOf? environment packingVariables with
  | some packing => some (.unusablePacking packing)
  | none =>
      match Uri.check (instrumentation.endpointIn environment) with
      | .error problem => some (.unusableEndpoint problem)
      | .ok () => none

/-- Check that spans can be sent, if they are. -/
def check (instrumentation : Instrumentation) (environment : List (String × String)) :
    Except Report Unit :=
  if instrumentation.enabled then
    match instrumentation.problemOf? environment with
    | some cause => .error ((Report.of cause).context "Failed to build OTLP span exporter")
    | none => .ok ()
  else
    .ok ()

end Instrumentation
end Telemetry
