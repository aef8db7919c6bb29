import Telemetry.Url.Host

/-!
# URLs

A URL has a scheme and a path, and may have a host with a port and user information, a query and a
fragment.
-/

namespace Telemetry

/-- The path of a URL: segments after slashes, or a text without structure. -/
inductive UrlPath where
  | segments (segments : List String)
  | text (text : String)
  deriving DecidableEq, Repr

/-- A URL.  Its parts are kept as they are written. -/
structure Url where
  scheme : String
  user : String
  password : String
  /-- The host, which may be there without a name. -/
  host : Option Host
  /-- The port unless it is that of the scheme. -/
  port : Option Nat
  path : UrlPath
  query : Option String
  fragment : Option String
  deriving DecidableEq, Repr

namespace Url

/-- Write the user information, which is left out without a name and a password. -/
def writeUser (url : Url) : String :=
  let password := if url.password.isEmpty then "" else ":" ++ url.password
  if url.user.isEmpty && url.password.isEmpty then "" else url.user ++ password ++ "@"

/-- Write the host with what belongs to it. -/
def writeAuthority (url : Url) : String :=
  match url.host with
  | none => ""
  | some host =>
      let port := match url.port with
        | some port => s!":{port}"
        | none => ""
      "//" ++ url.writeUser ++ host.write ++ port

/-- Write the path.  Without a host it does not begin with two slashes. -/
def writePath (url : Url) : String :=
  match url.path with
  | .text text => text
  | .segments segments =>
      let path := String.join (segments.map ("/" ++ ·))
      if url.host.isNone && "//".isPrefixOf path then "/." ++ path else path

/-- Write a part after its mark, if there is one. -/
def writeOptional (mark : String) : Option String → String
  | some text => mark ++ text
  | none => ""

/-- Write a URL. -/
def write (url : Url) : String :=
  url.scheme ++ ":" ++ url.writeAuthority ++ url.writePath ++ writeOptional "?" url.query ++
    writeOptional "#" url.fragment

/-- The URL with names and values for its query. -/
def withPairs (url : Url) (pairs : List (String × String)) : Url :=
  { url with query := some (String.ofList (Percent.encodePairs pairs)) }

end Url
end Telemetry
