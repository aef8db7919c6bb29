import Telemetry.Store.Fault
import Telemetry.Url.Reader

/-!
# The store's address

A request carries its statement and some options as the query of a URL.  Before it is sent the URL
must be a URI, the credentials must fit into header lines, and the scheme must be that of plain
HTTP.
-/

namespace Telemetry
namespace Store

/-- Where the store is and who asks. -/
structure Access where
  url : String
  database : String
  user : String
  password : String
  deriving DecidableEq, Repr

/-- A statement, and the options that it is sent with. -/
structure Request where
  statement : String
  options : List (String × String)
  deriving DecidableEq, Repr

/-- A request without options. -/
def Request.of (statement : String) : Request := ⟨statement, []⟩

/-- The most bytes of a statement that is part of the URL; a longer one is sent after it. -/
def statementLimit : Nat := 8192

/-- What a request says in its URL, as names and values. -/
def Access.pairs (access : Access) (request : Request) : List (String × String) :=
  [("database", access.database), ("default_format", "RowBinaryWithNamesAndTypes")] ++
    (if request.statement.utf8ByteSize ≤ statementLimit then
      [("query", request.statement)]
    else
      [("readonly", "1")]) ++
    ("compress", "1") :: request.options

/-- The URL of a request. -/
def Access.urlOf (access : Access) (request : Request) : Except AddressProblem Url := do
  let url ← (Url.read access.url).mapError .url
  let url := url.withPairs (access.pairs request)
  (Uri.check url.write).mapError .uri
  .ok url

/-- Whether a text fits into a header line: no control characters but the tab. -/
def fitsHeader (text : String) : Bool :=
  text.all fun character => (32 ≤ character.toNat && character.toNat != 127) || character == '\t'

/-- Refuse a request that cannot lead to a connection: a bad URL first, then bad credentials, then
another scheme. -/
def Access.check (access : Access) (request : Request) : Except Fault Unit := do
  let url ← (access.urlOf request).mapError .badAddress
  if fitsHeader access.user && fitsHeader access.password then
    if url.scheme = "http" then .ok () else .error .unsupportedScheme
  else
    .error .badHeader

end Store
end Telemetry
