import Telemetry.Failure

/-!
# Field paths

A path into a payload is written as names with dots between them, each name at least one character
long.
-/

namespace Telemetry
namespace Histogram
namespace FieldPath

/-- The segments of a path, empty ones included. -/
def split (path : String) : List String :=
  (path.toList.splitOn '.').map String.ofList

/-- Whether a dot stands at an end of the path or beside another one, or the path is empty. -/
def hasEmptySegment (path : String) : Bool :=
  (split path).any (· == "")

/-- The names of a path. -/
def segments (path : String) : Except Failure (List String) :=
  if (split path).any String.isEmpty then
    .error (.rejected (.unusablePath path))
  else
    .ok (split path)

end FieldPath
end Histogram
end Telemetry
