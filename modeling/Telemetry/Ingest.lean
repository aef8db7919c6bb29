import Telemetry.Dialogue
import Telemetry.Failure

/-!
# Ingesting readings

A reading is accepted only for the organization that owns its device.  The order is fixed: the
request is validated, the registry is asked for the owner, the owner is compared, and only then is
the record stamped and published.
-/

namespace Telemetry

/-- What a reading lacks, in alphabetical order of its fields. -/
def Reading.faults (reading : Reading) : List FieldFault :=
  (if reading.data.isEmpty then [.emptyPayload] else []) ++
    (if reading.device = "" then [.emptyDevice] else [])

/-- Refuse a reading that lacks something. -/
def Reading.validate (reading : Reading) : Except Failure Unit :=
  requireSound reading.faults

namespace Ingest

/-- What ingestion asks of its collaborators. -/
inductive Call where
  /-- The organization that owns a device, if the registry knows the device. -/
  | owner (device : String)
  /-- The present time. -/
  | now
  | publish (record : Record)

/-- The reply to each call. -/
abbrev Call.Reply : Call → Type
  | .owner _ => Except Failure (Option String)
  | .now => Instant
  | .publish _ => Except Failure Unit

/-- The collaborators of ingestion. -/
abbrev interface : Interface := ⟨Call, Call.Reply⟩

/-- Accept or refuse a request before anything is asked. -/
def validate (organization : String) (reading : Reading) : Except Failure Unit :=
  if organization = "" then
    .error (.rejected (.fields [.emptyOrganization]))
  else
    reading.validate

/-- The owner, if it is the organization that claims the reading. -/
def checkOwner (organization : String) (reading : Reading)
    (found : Except Failure (Option String)) : Except Failure String :=
  match found with
  | .error failure => .error failure
  | .ok none => .error (.unknownDevice reading.device)
  | .ok (some owner) =>
      if owner = organization then
        .ok owner
      else
        .error (.tenancyMismatch reading.device owner organization)

/-- Ingest one reading that an organization claims as its own. -/
def ingest (organization : String) (reading : Reading) :
    Dialogue interface (Except Failure Unit) :=
  match validate organization reading with
  | .error failure => .done (.error failure)
  | .ok () =>
      .call (.owner reading.device) fun found =>
        match checkOwner organization reading found with
        | .error failure => .done (.error failure)
        | .ok owner =>
            .call .now fun now =>
              .call (.publish (reading.stamp owner now)) .done

end Ingest
end Telemetry
