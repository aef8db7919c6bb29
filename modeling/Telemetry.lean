import Telemetry.Document.Reader
import Telemetry.Main
import Telemetry.Proofs.Accuracy
import Telemetry.Proofs.Admission
import Telemetry.Proofs.Atomicity
import Telemetry.Proofs.Closing
import Telemetry.Proofs.Deployment.Tenancy
import Telemetry.Proofs.FailStop
import Telemetry.Proofs.Histogram.Accounting
import Telemetry.Proofs.Histogram.Calendar
import Telemetry.Proofs.Histogram.Coverage
import Telemetry.Proofs.Histogram.FieldPath
import Telemetry.Proofs.Histogram.Limit
import Telemetry.Proofs.Histogram.Nesting
import Telemetry.Proofs.Histogram.Repetition
import Telemetry.Proofs.Histogram.Spelling
import Telemetry.Proofs.Histogram.Splitting
import Telemetry.Proofs.Histogram.Words
import Telemetry.Proofs.Insertion
import Telemetry.Proofs.Isolation
import Telemetry.Proofs.Subjects
import Telemetry.Proofs.Supervision
import Telemetry.Proofs.Wire.Canonical
import Telemetry.Proofs.Wire.RoundTrip
import Telemetry.Rehearsal.Asking
import Telemetry.Rehearsal.Consumption
import Telemetry.Rehearsal.Ingestion
import Telemetry.Rehearsal.Pipeline
import Telemetry.Rehearsal.Schedule
import Telemetry.Rehearsal.Sending
import Telemetry.Store.Table
import Telemetry.Trace.Propagation
