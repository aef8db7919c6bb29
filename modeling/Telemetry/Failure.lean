import Telemetry.Broker.Address
import Telemetry.Command
import Telemetry.Store.Fault
import Telemetry.Text.Visible
import Telemetry.Uri
import Telemetry.Wire.RecordMessage

/-!
# Failures

Every error is a value that says what happened; its wording is computed from it in one place.  A
`Report` is a cause with the contexts around it, a `Failure` classifies what a service may refuse or
lose, and an `Incident` is either of them on its way to whoever stops because of it.
-/

namespace Telemetry

@[simp]
theorem mapError_ok {ε ε' α : Type} (change : ε → ε') (value : α) :
    (Except.ok value).mapError change = .ok value := rfl

@[simp]
theorem mapError_error {ε ε' α : Type} (change : ε → ε') (fault : ε) :
    (Except.error fault : Except ε α).mapError change = .error (change fault) := rfl

/-- What a validated field of a request lacks. -/
inductive FieldFault where
  | emptyPayload
  | emptyDevice
  | emptyPath
  | emptyOrganization
  | infiniteThreshold
  deriving DecidableEq, Repr

/-- The wording of a field's fault: its name and the rule it breaks. -/
def FieldFault.message : FieldFault → String
  | .emptyPayload => "data: payload must not be empty"
  | .emptyDevice => "end_device_id: length is lower than 1"
  | .emptyPath => "field_path: length is lower than 1"
  | .emptyOrganization => "organization_id: length is lower than 1"
  | .infiniteThreshold => "thresholds: thresholds must be finite numbers"

/-- Why a request is rejected. -/
inductive Rejection where
  | fields (faults : List FieldFault)
  /-- The range does not end after it starts. -/
  | emptyRange
  /-- The requested path has an empty segment. -/
  | emptySegment (path : String)
  /-- The range has more windows than one answer may hold. -/
  | tooManyWindows (count interval : Nat)
  /-- The path of a store query has an empty segment. -/
  | unusablePath (path : String)
  /-- The windows of a store query have no length. -/
  | noInterval
  /-- A window would start or end outside the calendar. -/
  | outOfCalendar (second : Int)
  /-- A collaborator's own words. -/
  | stated (text : String)
  deriving DecidableEq, Repr

/-- The largest number of windows in one answer. -/
def windowLimit : Nat := 10000

/-- The wording of a rejection. -/
def Rejection.message : Rejection → String
  | .fields faults => ", ".intercalate (faults.map FieldFault.message)
  | .emptyRange => "end_time must be after start_time"
  | .emptySegment path => "field_path '" ++ path ++ "' contains an empty segment"
  | .tooManyWindows count interval =>
      s!"time range spans {count} buckets of {interval}s, at most {windowLimit} allowed"
  | .unusablePath path => "invalid field path '" ++ path ++ "': empty segment"
  | .noInterval => "time bucket interval must be at least one second"
  | .outOfCalendar second => s!"bucket start {second} is out of range"
  | .stated text => text

/-- What lies at the bottom of a failure. -/
inductive Cause where
  /-- A collaborator's own words. -/
  | stated (text : String)
  | undecodable (why : Undecodable)
  /-- Some messages could be neither acknowledged nor returned. -/
  | unsettled (failed total : Nat)
  /-- A row has not one count for each threshold. -/
  | rowWidth (counts thresholds : Nat)
  /-- Rows start where no window does. -/
  | strayRows (starts : List Int) (interval : Nat)
  | endpoint (fault : Store.Fault)
  | broker (fault : Broker.Fault)
  | unstartable (problem : StartProblem)
  /-- Spans cannot be sent to an endpoint. -/
  | unusableEndpoint (problem : UriProblem)
  /-- Spans cannot be packed in a way. -/
  | unusablePacking (name : String)
  /-- The migration tool ended badly. -/
  | migration (command : String) (status : ExitStatus) (output errors : String)
  /-- A process broke down instead of returning. -/
  | panicked (task text : String)
  deriving DecidableEq, Repr

/-- Integers with commas between them. -/
def listed (values : List Int) : String :=
  "[" ++ ", ".intercalate (values.map toString) ++ "]"

/-- The wording of an exporter's error. -/
def exporterText (error : String) : String :=
  "Exporter otlp encountered the following error(s): " ++ error

/-- The wording of the error that spans cannot be packed in a way, which may be a known one. -/
def packingText (name : String) : String :=
  if ["gzip", "zstd"].contains name then
    "feature '" ++ name ++ "-tonic' is required to use the compression algorithm '" ++ name ++ "'"
  else
    "unsupported compression algorithm '" ++ name ++ "'"

/-- The wording of a cause. -/
def Cause.message : Cause → String
  | .stated text => text
  | .undecodable why => why.message
  | .unsettled failed total => s!"failed to settle {failed} of {total} messages"
  | .rowWidth counts thresholds =>
      s!"histogram row has {counts} bucket counts for {thresholds} thresholds"
  | .strayRows starts interval =>
      "histogram rows at bucket starts " ++ listed starts ++
        s!" do not align to {interval}s buckets in the requested range"
  | .endpoint fault => fault.message
  | .broker fault => fault.message
  | .unstartable problem => problem.message
  | .unusableEndpoint problem => exporterText ("invalid URI " ++ problem.message)
  | .unusablePacking name => exporterText (packingText name)
  | .migration command status output errors =>
      "goose " ++ command ++ " failed (" ++ status.message ++ ").\nstdout: " ++ output ++
        "\nstderr: " ++ errors
  | .panicked task text =>
      "app process panicked: task " ++ task ++ " panicked with message " ++ showText text

/-- Contexts, outermost first, before what they surround. -/
def underContexts (contexts : List String) (inner : String) : String :=
  contexts.foldl (fun text context => context ++ ": " ++ text) inner

/-- A cause with the contexts around it, innermost first. -/
structure Report where
  cause : Cause
  contexts : List String
  deriving DecidableEq, Repr

namespace Report

/-- A cause without contexts. -/
def of (cause : Cause) : Report := ⟨cause, []⟩

/-- Put a context around a report. -/
def context (report : Report) (context : String) : Report :=
  { report with contexts := report.contexts ++ [context] }

/-- The wording of a report, outermost context first. -/
def message (report : Report) : String :=
  underContexts report.contexts report.cause.message

end Report

/-- Why a delivered message is no record. -/
inductive Misread where
  /-- The message at an index of its batch cannot be decoded. -/
  | message (index : Nat) (subject : String) (why : Undecodable)
  /-- A collaborator's own words. -/
  | stated (text : String)
  deriving DecidableEq, Repr

/-- The wording of a misread message. -/
def Misread.wording : Misread → String
  | .message index subject why => s!"message {index} on " ++ subject ++ ": " ++ why.message
  | .stated text => text

/-- What a service may refuse or lose. -/
inductive Failure where
  | rejected (why : Rejection)
  | unknownDevice (device : String)
  /-- The device belongs to another organization than the one that sends its data. -/
  | tenancyMismatch (device owner claimed : String)
  | broker (report : Report)
  | misread (why : Misread)
  | store (report : Report)
  | registry (report : Report)
  deriving DecidableEq, Repr

namespace Failure

/-- The wording of a failure. -/
def message : Failure → String
  | .rejected why => "Validation error: " ++ why.message
  | .unknownDevice device => "End device not found: " ++ device
  | .tenancyMismatch device owner claimed =>
      "Organization mismatch: end device " ++ device ++ " belongs to " ++ owner ++
        ", but data sent for " ++ claimed
  | .broker report => "Broker error: " ++ report.message
  | .misread why => "Deserialization error: " ++ why.wording
  | .store report => "Store error: " ++ report.message
  | .registry report => "Repository error: " ++ report.message

/-- The wording of a failure and of what it keeps beneath; only a registry failure keeps its
report there. -/
def chain : Failure → String
  | .registry report => (Failure.registry report).message ++ ": " ++ report.message
  | failure => failure.message

end Failure

/-- Refuse a request that lacks something. -/
def requireSound (faults : List FieldFault) : Except Failure Unit :=
  if faults.isEmpty then .ok () else .error (.rejected (.fields faults))

/-- What stops a loop or a process: a failure or a bare cause, with contexts, innermost first. -/
structure Incident where
  source : Failure ⊕ Cause
  contexts : List String
  deriving DecidableEq, Repr

namespace Incident

/-- A failure without contexts. -/
def ofFailure (failure : Failure) : Incident := ⟨.inl failure, []⟩

/-- A report as an incident. -/
def ofReport (report : Report) : Incident := ⟨.inr report.cause, report.contexts⟩

/-- Put a context around an incident. -/
def context (incident : Incident) (context : String) : Incident :=
  { incident with contexts := incident.contexts ++ [context] }

/-- The failure that an incident is or surrounds. -/
def failure? (incident : Incident) : Option Failure :=
  incident.source.getLeft?

/-- The wording of an incident, outermost context first. -/
def message (incident : Incident) : String :=
  underContexts incident.contexts
    (match incident.source with
    | .inl failure => failure.chain
    | .inr cause => cause.message)

/-- The wording of the outermost layer alone. -/
def headline (incident : Incident) : String :=
  match incident.contexts.getLast?, incident.source with
  | some context, _ => context
  | none, .inl failure => failure.message
  | none, .inr cause => cause.message

end Incident
end Telemetry
