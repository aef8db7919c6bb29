import Telemetry.Connection
import Telemetry.Uri
import Telemetry.Url.Host

/-!
# What can go wrong at the store's endpoint

The wording includes the cause that lies beneath, which is why it may be said twice.
-/

namespace Telemetry
namespace Store

/-- Why nothing can be sent to an address. -/
inductive AddressProblem where
  /-- The address is no URL. -/
  | url (problem : UrlProblem)
  /-- The URL of a request is no URI. -/
  | uri (problem : UriProblem)
  deriving DecidableEq, Repr

/-- The wording of an address problem. -/
def AddressProblem.message : AddressProblem → String
  | .url problem => problem.message
  | .uri problem => problem.message

/-- Why a request to the store has no good reply. -/
inductive Fault where
  /-- The statement has more placeholders than values. -/
  | unboundPlaceholder
  /-- The statement has more values than placeholders. -/
  | unusedValue
  | badAddress (problem : AddressProblem)
  /-- A credential does not fit into a header line. -/
  | badHeader
  /-- Only plain HTTP is spoken. -/
  | unsupportedScheme
  | unconnected (problem : ConnectProblem)
  /-- The server says no. -/
  | refused (text : String)
  deriving DecidableEq, Repr

/-- The wording of a fault. -/
def Fault.message : Fault → String
  | .unboundPlaceholder =>
      echoed "invalid params: " "invalid SQL: unbound query argument"
  | .unusedValue =>
      echoed "invalid params: " "invalid SQL: unexpected bind(), all arguments are already bound"
  | .badAddress problem => echoed "invalid params: " problem.message
  | .badHeader => echoed "invalid params: " "failed to parse header value"
  | .unsupportedScheme =>
      "unsupported: invalid URL, scheme is not http; if you are trying to connect via HTTPS, " ++
        "consider enabling `native-tls` or `rustls-tls` feature"
  | .unconnected problem =>
      echoed "network error: " "client error (Connect)" ++
        (if problem.isNameless then ": dns error: " else ": tcp connect error: ") ++ problem.message
  | .refused text => "bad response: " ++ text

end Store
end Telemetry
