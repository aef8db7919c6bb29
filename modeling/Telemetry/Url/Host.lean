import Telemetry.Domain.Label
import Telemetry.Url.IPv6
import Telemetry.Url.Percent

/-!
# Hosts of URLs

A host is an address or a name.  In the usual schemes a name is that of a domain, and one that ends
in a number has to be an address; in the others it is any text.
-/

namespace Telemetry

/-- Why a text is no URL. -/
inductive UrlProblem where
  /-- It has no scheme. -/
  | relative
  | emptyHost
  /-- The host is no name of a domain. -/
  | badDomain
  | badPort
  | badIPv4
  | badIPv6
  /-- The host holds a character that no host does. -/
  | badHostCharacter
  deriving DecidableEq, Repr

/-- The wording of a URL's problem. -/
def UrlProblem.message : UrlProblem → String
  | .relative => "relative URL without a base"
  | .emptyHost => "empty host"
  | .badDomain => "invalid international domain name"
  | .badPort => "invalid port number"
  | .badIPv4 => "invalid IPv4 address"
  | .badIPv6 => "invalid IPv6 address"
  | .badHostCharacter => "invalid domain character"

/-- A host. -/
inductive Host where
  | name (text : String)
  | four (address : IPv4)
  | six (address : IPv6)
  deriving DecidableEq, Repr

namespace Host

/-- The host without a name. -/
def empty : Host := .name ""

/-- Whether a host has no name. -/
def isEmpty (host : Host) : Bool :=
  host == empty

/-- Write a host. -/
def write : Host → String
  | .name text => text
  | .four address => address.write
  | .six address => "[" ++ address.write ++ "]"

/-- Read an address between brackets, of which the first has been read. -/
def readBracketed (text : List Char) : Except UrlProblem Host :=
  if text.getLast? = some ']' then
    match IPv6.read? text.dropLast with
    | some address => .ok (.six address)
    | none => .error .badIPv6
  else
    .error .badIPv6

/-- Read the name of a domain in plain characters, or an address of four bytes. -/
def readPlain (text : List Char) : Except UrlProblem Host :=
  if text.isEmpty then
    .error .emptyHost
  else if IPv4.endsInNumber text then
    match IPv4.read? text with
    | some address => .ok (.four address)
    | none => .error .badIPv4
  else
    .ok (.name (String.ofList text))

/-- Read the host of a usual scheme. -/
def readDomain (text : List Char) : Except UrlProblem Host :=
  match text with
  | '[' :: rest => readBracketed rest
  | _ =>
      match (textOfBytes? (Percent.decode text)).bind fun name => Domain.toPlain? name.toList with
      | some plain => readPlain plain
      | none => .error .badDomain

/-- Whether no host holds a character. -/
def isExcluded (character : Char) : Bool :=
  ['\x00', '\t', '\n', '\r', ' ', '#', '/', ':', '<', '>', '?', '@', '[', '\\', ']', '^',
    '|'].contains character

/-- Read the host of any other scheme. -/
def readOther (text : List Char) : Except UrlProblem Host :=
  match text with
  | '[' :: rest => readBracketed rest
  | _ =>
      if text.any isExcluded then
        .error .badHostCharacter
      else
        .ok (.name (String.ofList (Percent.encode [] text)))

end Host
end Telemetry
