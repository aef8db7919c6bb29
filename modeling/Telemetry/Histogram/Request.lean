import Telemetry.Dialogue
import Telemetry.Histogram.FieldPath
import Telemetry.Histogram.Interval
import Telemetry.Histogram.Window

/-!
# Histogram requests

A request is validated and normalized into a store query before any collaborator is asked: devices
and thresholds are sorted and taken once, and the window length follows from the range.  The answer
carries the windows of the store and a summary of them.
-/

namespace Telemetry
namespace Histogram

/-- What a client asks: one organization's observations at a path over a range of time. -/
structure Request where
  organization : String
  /-- Without devices, every device of the organization counts. -/
  devices : List String
  start : Instant
  stop : Instant
  path : String
  thresholds : List Double
  deriving DecidableEq, Repr

/-- The summary of an answer. -/
structure Summary where
  total : Nat
  /-- The length of a window in seconds. -/
  interval : Nat
  windows : Nat
  devices : Nat
  deriving DecidableEq, Repr

/-- The windows of a request and their summary. -/
structure Answer where
  windows : List Window
  summary : Summary
  deriving DecidableEq, Repr

/-- Drop every element that equals the one kept before it. -/
def dropRepeats {α : Type} (same : α → α → Bool) : List α → List α
  | [] => []
  | first :: rest => first :: go first rest
where
  go (kept : α) : List α → List α
    | [] => []
    | next :: rest => if same kept next then go kept rest else next :: go next rest

/-- Device names in ascending order, each once. -/
def distinctDevices (devices : List String) : List String :=
  dropRepeats (· == ·) (devices.mergeSort fun left right => decide (left ≤ right))

/-- Thresholds in ascending order, numerically equal ones once. -/
def distinctThresholds (thresholds : List Double) : List Double :=
  dropRepeats Double.same (thresholds.mergeSort Double.totalLe)

/-- The largest number that the count of devices can show. -/
def deviceCountLimit : Nat := 0xFFFFFFFF

/-- One more than the largest total; a total begins again beyond it. -/
def totalLimit : Nat := 0x10000000000000000

namespace Request

/-- What a request lacks, in alphabetical order of its fields. -/
def faults (request : Request) : List FieldFault :=
  (if request.path = "" then [.emptyPath] else []) ++
    (if request.organization = "" then [.emptyOrganization] else []) ++
    (if request.thresholds.all Double.isFinite then [] else [.infiniteThreshold])

/-- Refuse a request that lacks something. -/
def validate (request : Request) : Except Failure Unit :=
  requireSound request.faults

/-- An estimate of the number of windows: the whole intervals in the range, and one. -/
def windowEstimate (request : Request) : Nat :=
  Instant.rangeSeconds request.start request.stop / intervalFor request.start request.stop + 1

/-- The store query of a request, or why there is none. -/
def normalize (request : Request) : Except Failure Query := do
  request.validate
  if request.stop.le request.start then
    .error (.rejected .emptyRange)
  else if FieldPath.hasEmptySegment request.path then
    .error (.rejected (.emptySegment request.path))
  else
    let interval := intervalFor request.start request.stop
    if windowLimit < request.windowEstimate then
      .error (.rejected (.tooManyWindows request.windowEstimate interval))
    else
      .ok
        { organization := request.organization
          devices := distinctDevices request.devices
          start := request.start
          stop := request.stop
          path := request.path
          thresholds := distinctThresholds request.thresholds
          interval }

end Request

/-- What a request asks of its collaborators. -/
inductive Call where
  /-- The number of devices of an organization. -/
  | deviceCount (organization : String)
  | windows (query : Query)

/-- The reply to each call. -/
abbrev Call.Reply : Call → Type
  | .deviceCount _ => Except Failure Nat
  | .windows _ => Except Failure (List Window)

/-- The collaborators of a request. -/
abbrev interface : Interface := ⟨Call, Call.Reply⟩

/-- The number of devices a query is about; the registry knows it when none is named. -/
def Query.deviceCount (query : Query) : Dialogue interface (Except Failure Nat) :=
  if query.devices.isEmpty then
    .call (.deviceCount query.organization) .done
  else
    .done (.ok (min query.devices.length deviceCountLimit))

/-- The answer that windows make. -/
def Query.answer (query : Query) (devices : Nat) (windows : List Window) : Answer :=
  { windows
    summary :=
      { total := (windows.map Window.count).foldr Nat.add 0 % totalLimit
        interval := query.interval
        windows := min windows.length deviceCountLimit
        devices } }

/-- Answer a request. -/
def Request.answer (request : Request) : Dialogue interface (Except Failure Answer) :=
  match request.normalize with
  | .error failure => .done (.error failure)
  | .ok query => do
      match ← query.deviceCount with
      | .error failure => .done (.error failure)
      | .ok devices =>
          .call (.windows query) fun
            | .error failure => .done (.error failure)
            | .ok windows => .done (.ok (query.answer devices windows))

end Histogram
end Telemetry
