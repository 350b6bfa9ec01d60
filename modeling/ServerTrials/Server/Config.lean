import ServerTrials.Net.Host
import ServerTrials.Server.Options

/-!
The configuration a server runs with, and the rules by which options become one.

`ServerConfig.ofOptions` decides whether a server on a host accepts an option map. The rules are
checked in a fixed order and the first one broken is the answer:

    mode, family, protocol, max_connections, the ports, their collision,
    the interfaces, primary_advertised, alternate_advertised

Every rule reads its own options and what the rules before it have settled; other options are ignored.
-/

namespace ServerTrials

/-- A transport protocol. -/
inductive Protocol where
  | udp
  | tcp
  deriving DecidableEq, Repr

/-- A basic server has one endpoint, a full one two addresses times two ports. -/
inductive Mode where
  | basic
  | full
  deriving DecidableEq, Repr

/-- The endpoints of a server: the first letter is the address (primary or alternate), the second the
port. A basic server has the first one only. -/
structure Endpoints where
  pp : Endpoint
  pa : Option Endpoint
  ap : Option Endpoint
  aa : Option Endpoint
  deriving DecidableEq, Repr

/-- A configuration that a server accepts. -/
structure ServerConfig where
  protocol : Protocol
  mode : Mode
  family : Family
  maxConnections : Option Nat
  primaryPort : UInt16
  alternatePort : UInt16
  endpoints : Endpoints
  primaryAdvertised : Option IpAddress
  alternateAdvertised : Option IpAddress
  verbosity : Option Int
  deriving DecidableEq, Repr

namespace ServerConfig

/-- The primary port of a server whose options name none. -/
def defaultPrimaryPort : UInt16 := 3478

/-- The alternate port of a server whose options name none. -/
def defaultAlternatePort : UInt16 := 3479

/-- The largest limit of connections. -/
def connectionsLimit : Int := 100000

/-! ### The rules, one by one -/

/-- The mode: basic unless the options say full. -/
def readMode (o : OptionMap) : Except ConfigError Mode := do
  match ← o.string? Key.mode with
  | none => .ok .basic
  | some s =>
    if s = "basic" then .ok .basic
    else if s = "full" then .ok .full
    else .error (.invalidMode s)

/-- The family: IPv4 unless the options say 6. -/
def readFamily (o : OptionMap) : Except ConfigError Family := do
  match ← o.integer? Key.family with
  | none => .ok .v4
  | some n =>
    if n = 4 then .ok .v4
    else if n = 6 then .ok .v6
    else .error (.invalidFamily n)

/-- The protocol: UDP unless the options say TCP. -/
def readProtocol (o : OptionMap) : Except ConfigError Protocol := do
  match ← o.string? Key.protocol with
  | none => .ok .udp
  | some s =>
    if s = "udp" then .ok .udp
    else if s = "tcp" then .ok .tcp
    else .error (.unsupportedProtocol s)

/-- The limit of connections, which only TCP has. -/
def readMaxConnections (o : OptionMap) (protocol : Protocol) : Except ConfigError (Option Nat) := do
  match ← o.integer? Key.maxConnections with
  | none => .ok none
  | some n =>
    if protocol ≠ .tcp then .error .maxConnectionsWithoutTcp
    else if 1 ≤ n ∧ n ≤ connectionsLimit then .ok (some n.toNat)
    else .error (.maxConnectionsOutOfRange n)

/-- The verbosity, if it is an integer; any other value counts as left out. -/
def readVerbosity (o : OptionMap) : Option Int := do (← o.get? Key.verbosity).int64?

/-- A port between 1 and 65535, or the default. -/
def readPort (o : OptionMap) (key : String) (default : UInt16) : Except ConfigError UInt16 := do
  match ← o.integer? key with
  | none => .ok default
  | some n => if 1 ≤ n ∧ n < 65536 then .ok n.toNat.toUInt16 else .error (.portOutOfRange key n)

/-- The primary port. -/
def readPrimaryPort (o : OptionMap) : Except ConfigError UInt16 :=
  readPort o Key.primaryPort defaultPrimaryPort

/-- The alternate port. -/
def readAlternatePort (o : OptionMap) : Except ConfigError UInt16 :=
  readPort o Key.alternatePort defaultAlternatePort

/-- The address behind the interface that an option names, or the given one if it names none. -/
def readInterface (o : OptionMap) (host : Host) (family : Family) (key : String)
    (unnamed : Except ConfigError IpAddress) : Except ConfigError IpAddress := do
  match ← o.string? key with
  | none => unnamed
  | some name =>
    match host.addressFor? family name with
    | some a => .ok a
    | none => .error (.interfaceNotFound key name)

/-- The endpoint of a basic server: the wildcard address unless an interface is named. -/
def basicEndpoints (o : OptionMap) (host : Host) (family : Family) (primaryPort : UInt16) :
    Except ConfigError Endpoints := do
  let a ← readInterface o host family Key.primaryInterface (.ok (.unspecified family))
  .ok ⟨⟨a, primaryPort⟩, none, none, none⟩

/-- The endpoints of a full server: the addresses of the named interfaces, or the first address of
the host and the first one that differs from the primary. -/
def fullEndpoints (o : OptionMap) (host : Host) (family : Family) (primaryPort alternatePort : UInt16) :
    Except ConfigError Endpoints :=
  match host.addresses family with
  | first :: second :: more => do
    let p ← readInterface o host family Key.primaryInterface (.ok first)
    let other := match (first :: second :: more).find? (· != p) with
      | some a => Except.ok a
      | none => .error (.insufficientAddresses family)
    let a ← readInterface o host family Key.alternateInterface other
    if p = a then .error (.sameAddress p)
    else .ok ⟨⟨p, primaryPort⟩, some ⟨p, alternatePort⟩, some ⟨a, primaryPort⟩, some ⟨a, alternatePort⟩⟩
  | _ => .error (.insufficientAddresses family)

/-- The endpoints of a server in that mode. -/
def readEndpoints (o : OptionMap) (host : Host) (mode : Mode) (family : Family)
    (primaryPort alternatePort : UInt16) : Except ConfigError Endpoints :=
  match mode with
  | .basic => basicEndpoints o host family primaryPort
  | .full => fullEndpoints o host family primaryPort alternatePort

/-- An advertised address: a literal of the family. -/
def readAdvertised (o : OptionMap) (key : String) (family : Family) :
    Except ConfigError (Option IpAddress) := do
  match ← o.string? key with
  | none => .ok none
  | some s =>
    match IpAddress.ofText? family s with
    | some a => .ok (some a)
    | none => .error (.invalidAdvertised key s family)

/-- The alternate advertised address, which only full mode has; its type is judged before its place. -/
def readAlternateAdvertised (o : OptionMap) (mode : Mode) (family : Family) :
    Except ConfigError (Option IpAddress) := do
  match ← o.string? Key.alternateAdvertised with
  | none => .ok none
  | some _ =>
    if mode = .full then readAdvertised o Key.alternateAdvertised family
    else .error .alternateAdvertisedRequiresFull

/-! ### The configuration -/

/-- The configuration that the options stand for on a host, or the first rule they break. -/
def ofOptions (o : OptionMap) (host : Host) : Except ConfigError ServerConfig := do
  let mode ← readMode o
  let family ← readFamily o
  let protocol ← readProtocol o
  let maxConnections ← readMaxConnections o protocol
  let primaryPort ← readPrimaryPort o
  let alternatePort ← readAlternatePort o
  if primaryPort = alternatePort then .error (.portCollision primaryPort)
  else
    let endpoints ← readEndpoints o host mode family primaryPort alternatePort
    let primaryAdvertised ← readAdvertised o Key.primaryAdvertised family
    let alternateAdvertised ← readAlternateAdvertised o mode family
    .ok { protocol, mode, family, maxConnections, primaryPort, alternatePort, endpoints,
          primaryAdvertised, alternateAdvertised, verbosity := readVerbosity o }

/-- The ports that a running server holds. -/
def boundPorts (c : ServerConfig) : List UInt16 :=
  match c.mode with
  | .basic => [c.primaryPort]
  | .full => [c.primaryPort, c.alternatePort]

end ServerConfig
end ServerTrials
