import Telemetry.Store.Client

/-!
# A machine without a network

A machine that knows its own name and nobody else's, and from which no address can be reached.
-/

namespace Telemetry
namespace Rehearsal
namespace Network

/-- Whether a text may be a part of a name that somebody is asked for. -/
def isPart (text : List Char) : Bool :=
  1 ≤ text.length && text.length ≤ 63 &&
    text.all fun character => character.isAlphanum || character == '-' || character == '_'

/-- The most characters of a name, but for a point at its end. -/
def nameLimit : Nat := 253

/-- Whether a name can be asked for.  The empty name before a point is everybody's. -/
def isName (text : List Char) : Bool :=
  let name := if text.getLast? = some '.' then text.dropLast else text
  name.isEmpty ||
    (name.length ≤ nameLimit && name.head? != some '-' && (name.splitOn '.').all isPart)

/-- Whether an address is that of a group, or stands for an address of four bytes. -/
def isElsewhere (address : IPv6) : Bool :=
  0xFF00 ≤ address.headD 0 || (address.take 6 == [0, 0, 0, 0, 0, 0xFFFF])

/-- Whether an address holds in one network only. -/
def isLocal (address : IPv6) : Bool :=
  0xFE80 ≤ address.headD 0 && address.headD 0 ≤ 0xFEBF

/-- What comes of connecting to a host. -/
def problemOf : Host → ConnectProblem
  | .four _ => .unreachable
  | .six address =>
      if isElsewhere address then .unreachable
      else if isLocal address then .noZone
      else .noSource
  | .name text =>
      if text = "localhost" then .unreachable
      else if isName text.toList then .noResolver
      else .unknownName

/-- The host that a name stands for, which may write an address. -/
def addressed (host : Host) : Host :=
  match host with
  | .name text => ((IPv4.read? text.toList).map Host.four).getD host
  | host => host

/-- What comes of connecting to a broker. -/
def connect (url : String) : Except Report Unit :=
  let fault : Broker.Fault :=
    match Broker.readAddress url with
    | .error problem => .badAddress problem
    | .ok url => .unconnected (problemOf (addressed (url.host.getD Host.empty)))
  .error ((Report.of (.broker fault)).context "Failed to connect to NATS")

/-- The fault of a store that cannot be reached. -/
def fault (access : Store.Access) : Store.Fault :=
  match Url.read access.url with
  | .ok url => .unconnected (problemOf (url.host.getD Host.empty))
  | .error problem => .badAddress (.url problem)

/-- Reply to a call of a store's client. -/
def collaborators {σ : Type} (access : Store.Access) : Dialogue.Collaborators Store.interface σ
  | .ping _, state => (.error (fault access), state)
  | .select _, state => (.error (fault access), state)
  | .openInsert _ _, state => (.error (fault access), state)
  | .write _, state => (.error (fault access), state)
  | .finish, state => (.error (fault access), state)

end Network
end Rehearsal
end Telemetry
