/-!
# Connections

What keeps a connection to a host from being made.
-/

namespace Telemetry

/-- Why no connection can be made. -/
inductive ConnectProblem where
  /-- No network leads to the address. -/
  | unreachable
  /-- There is no address of the same kind to connect from. -/
  | noSource
  /-- The address is of one network only and does not say which. -/
  | noZone
  /-- Nobody can be asked for the address of the name. -/
  | noResolver
  /-- There is no such name. -/
  | unknownName
  deriving DecidableEq, Repr

namespace ConnectProblem

/-- Whether not even an address is known. -/
def isNameless : ConnectProblem → Bool
  | .noResolver | .unknownName => true
  | .unreachable | .noSource | .noZone => false

/-- The wording of a connection's problem. -/
def message : ConnectProblem → String
  | .unreachable => "Network is unreachable (os error 101)"
  | .noSource => "Cannot assign requested address (os error 99)"
  | .noZone => "Invalid argument (os error 22)"
  | .noResolver => "failed to lookup address information: Temporary failure in name resolution"
  | .unknownName => "failed to lookup address information: Name or service not known"

end ConnectProblem

/-- Say a cause after the sentence that already holds it. -/
def echoed (sentence cause : String) : String :=
  sentence ++ cause ++ ": " ++ cause

end Telemetry
