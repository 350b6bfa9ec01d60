import ServerTrials.Binding.Stream
import ServerTrials.Server.Instance

/-!
A session with a listening instance: it is started, clients on the same machine send to its ports, and
it is stopped.

Before the start one of its ports may be held by somebody else for the time of one more attempt. Clients
can reach the instance only over a loopback network; without one every attempt to send fails.
-/

namespace ServerTrials.Binding

/-- One of the two ports of an instance. -/
inductive PortRole where
  | primary
  | alternate
  deriving DecidableEq, Repr

/-- What a client sends, and to which port. -/
structure Sending where
  role : PortRole
  sends : List Bytes
  deriving DecidableEq, Repr

/-- What a client gets back. -/
inductive Reply where
  | refused
  | stream (responses : List Bytes)
  | datagrams (responses : List (Option Bytes))
  deriving DecidableEq, Repr

/-- The networks of a machine. -/
structure Network where
  loopback : Bool
  deriving DecidableEq, Repr

/-- The failure of a client without a network. -/
def unreachable : String := "Network is unreachable (os error 101)"

namespace PortRole

/-- The port of an instance in that role. -/
def portOf (r : PortRole) (c : ServerConfig) : UInt16 :=
  match r with
  | .primary => c.primaryPort
  | .alternate => c.alternatePort

/-- The role of a port. -/
def ofPort (c : ServerConfig) (port : UInt16) : PortRole :=
  if port = c.primaryPort then .primary else .alternate

end PortRole

/-- The client's endpoint, its port left at zero. -/
def clientEndpoint : Endpoint := ⟨.quad 127 0 0 1, 0⟩

/-- What reads give of a client's chunks: those that hold anything, and then the end of the stream. -/
def arrivals (sends : List Bytes) : List Arrival :=
  (sends.filter fun chunk => !chunk.isEmpty).map .bytes ++ [.bytes []]

/-- What a running instance gives back to a client that takes every response. -/
def reply (c : ServerConfig) (s : Sending) : Reply :=
  let listens := c.boundPorts.contains (s.role.portOf c)
  match c.protocol with
  | .tcp =>
    if listens then
      .stream ((Connection.accept clientEndpoint).serve (fun _ _ => true) [] (arrivals s.sends)).1
    else .refused
  | .udp =>
    .datagrams (s.sends.map fun d => if listens then respondDatagram d clientEndpoint else none)

/-- What all clients get back, or why they could not send. -/
def replies (network : Network) (c : ServerConfig) (sendings : List Sending) :
    Except String (List Reply) :=
  if sendings.isEmpty || network.loopback then .ok (sendings.map (reply c)) else .error unreachable

/-- The attempt to start while a port is held: its answer, whether the instance runs after it, and how
many ports are claimed. -/
structure Attempt where
  answer : Except ServiceError Bool
  running : Bool
  claimed : Nat

/-- A finished session. -/
structure Session where
  config : ServerConfig
  blocked : Option Attempt
  start : Except ServiceError Bool
  claimed : Nat
  replies : List Reply
  stop : Except ServiceError Unit
  claimedAfter : Nat
  closed : Bool

/-- The attempt to start while a port is held. -/
def attempt (held : PortRole) (i : Instance) (r : Registry) : Attempt × Instance × Registry :=
  let (answer, i, r) := i.start (Binder.excluding [held.portOf i.config]) r
  (⟨answer, i.running, r.count⟩, i, r)

/-- Runs a session with an instance of that configuration. -/
def session (network : Network) (c : ServerConfig) (occupied : Option PortRole)
    (sendings : List Sending) : Except String Session := do
  let created : Instance := ⟨c, false, true⟩
  let (blocked, i, r) := match occupied with
    | none => (none, created, Registry.empty)
    | some held =>
      let (a, i, r) := attempt held created Registry.empty
      (some a, i, r)
  let (start, i, r) := i.start (Binder.excluding []) r
  let replies ← replies network c sendings
  let (stop, i, after) := i.stop r
  return { config := c, blocked, start, claimed := r.count, replies, stop
           claimedAfter := after.count, closed := !i.running }

end ServerTrials.Binding
