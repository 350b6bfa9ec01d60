import ServerTrials.Server.Config
import ServerTrials.Server.ServiceError

/-!
The registry of ports that running instances hold.

Ports are held per protocol, and by nobody in particular: a port is held or it is not. A claim is all or
nothing.
-/

namespace ServerTrials

/-- The ports held, each with its protocol, without repetition. -/
structure Registry where
  claimed : List (Protocol × UInt16)
  deriving DecidableEq, Repr

namespace Registry

/-- The registry in which nothing is held. -/
def empty : Registry := ⟨[]⟩

/-- Whether a port is held for a protocol. -/
def isClaimed (r : Registry) (protocol : Protocol) (port : UInt16) : Bool :=
  decide ((protocol, port) ∈ r.claimed)

/-- How many ports are held. -/
def count (r : Registry) : Nat := r.claimed.length

/-- The registry with one more port held. -/
def add (r : Registry) (protocol : Protocol) (port : UInt16) : Registry :=
  if r.isClaimed protocol port then r else ⟨(protocol, port) :: r.claimed⟩

/-- Claims ports for a protocol; if some of them are held, the first of those is the answer and nothing
changes. -/
def claim (r : Registry) (protocol : Protocol) (ports : List UInt16) : Except ServiceError Registry :=
  match ports.find? (r.isClaimed protocol) with
  | some port => .error (.addressInUse port)
  | none => .ok (ports.foldl (fun r p => r.add protocol p) r)

/-- Gives ports back. -/
def release (r : Registry) (protocol : Protocol) (ports : List UInt16) : Registry :=
  ⟨r.claimed.filter fun c => !(c.1 == protocol && ports.contains c.2)⟩

end Registry
end ServerTrials
