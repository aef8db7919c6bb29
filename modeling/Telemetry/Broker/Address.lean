import Telemetry.Connection
import Telemetry.Url.Reader

/-!
# The broker's address

The broker is named by a URL, whose scheme may be left out.
-/

namespace Telemetry
namespace Broker

/-- Why a text names no broker. -/
inductive AddressProblem where
  | url (problem : UrlProblem)
  /-- The scheme is none of a broker's. -/
  | scheme (name : String)
  deriving DecidableEq, Repr

/-- The wording of an address problem. -/
def AddressProblem.message : AddressProblem → String
  | .url problem => "NATS server URL is invalid: " ++ problem.message
  | .scheme name => "invalid scheme for NATS server URL: " ++ name

/-- The schemes of a broker; the first is meant when none is given. -/
def schemes : List String :=
  ["nats", "tls", "ws", "wss"]

/-- Whether two slashes follow a colon somewhere. -/
def hasScheme : List Char → Bool
  | [] => false
  | ':' :: '/' :: '/' :: _ => true
  | _ :: rest => hasScheme rest

/-- The URL of a broker. -/
def readAddress (text : String) : Except AddressProblem Url :=
  match Url.read (if hasScheme text.toList then text else "nats://" ++ text) with
  | .error problem => .error (.url problem)
  | .ok url => if schemes.contains url.scheme then .ok url else .error (.scheme url.scheme)

/-- Why the broker cannot be talked to. -/
inductive Fault where
  | badAddress (problem : AddressProblem)
  | unconnected (problem : ConnectProblem)
  deriving DecidableEq, Repr

/-- The wording of a fault. -/
def Fault.message : Fault → String
  | .badAddress problem => echoed "failed to parse server or server list: " problem.message
  | .unconnected problem =>
      echoed (if problem.isNameless then "DNS error: " else "IO error: ") problem.message

end Broker
end Telemetry
