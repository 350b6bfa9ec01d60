import ServerTrials.Server.ConfigLog
import ServerTrials.Server.Registry

/-!
Server instances that share a registry of ports.

An instance is created with its configuration, so bad options make none. Starting it claims its ports,
stopping or dropping it gives them back. A listening instance also binds sockets on its ports; if that
fails, the claim is taken back.
-/

namespace ServerTrials

/-- Binds sockets on ports, or says why it cannot. -/
abbrev Binder := Protocol → List UInt16 → Except ServiceError Unit

namespace Binder

/-- Binding outside an event loop. -/
def withoutRuntime : Binder := fun _ _ =>
  .error (.startFailed ("listening needs a runtime: there is no reactor running, must be called from "
    ++ "the context of a Tokio 1.x runtime"))

/-- Binding on a machine where somebody else holds some of the ports; the first of these is the
answer. -/
def excluding (held : List UInt16) : Binder := fun _ ports =>
  match ports.find? held.contains with
  | some port => .error (.addressInUse port)
  | none => .ok ()

end Binder

/-- An instance: its configuration, whether it runs and whether it listens while it runs. -/
structure Instance where
  config : ServerConfig
  running : Bool
  listening : Bool
  deriving DecidableEq, Repr

namespace Instance

/-- A stopped instance with these options. -/
def create (o : OptionMap) (host : Host) (listening : Bool) : Except ServiceError Instance :=
  match ServerConfig.ofOptions o host with
  | .error e => .error (.invalidConfig e)
  | .ok config => .ok ⟨config, false, listening⟩

/-- The ports that the instance holds while it runs. -/
def ports (i : Instance) : List UInt16 := i.config.boundPorts

/-- The registry without the ports of the instance. -/
def releasePorts (i : Instance) (r : Registry) : Registry := r.release i.config.protocol i.ports

/-- Starts the instance. -/
def start (bind : Binder) (i : Instance) (r : Registry) :
    Except ServiceError Bool × Instance × Registry :=
  if i.running then (.error .alreadyRunning, i, r)
  else
    match r.claim i.config.protocol i.ports with
    | .error e => (.error e, i, r)
    | .ok claimed =>
      match if i.listening then bind i.config.protocol i.ports else .ok () with
      | .error e => (.error e, i, i.releasePorts claimed)
      | .ok _ => (.ok true, { i with running := true }, claimed)

/-- Stops the instance. -/
def stop (i : Instance) (r : Registry) : Except ServiceError Unit × Instance × Registry :=
  if i.running then (.ok (), { i with running := false }, i.releasePorts r)
  else (.error .notRunning, i, r)

/-- The registry after the instance is gone. -/
def drop (i : Instance) (r : Registry) : Registry := if i.running then i.releasePorts r else r

/-! ### Log -/

open Log

/-- A list of ports as a log line shows it. -/
def portsText (ports : List UInt16) : String :=
  "[" ++ ", ".intercalate (ports.map fun p => toString p.toNat) ++ "]"

/-- What the instance reports during a start with that answer. -/
def startLog (i : Instance) (answer : Except ServiceError Bool) : List Event :=
  match answer with
  | .ok _ => [⟨.debug, .fleet, "instance started",
      [("protocol", i.config.protocol.label), ("ports", portsText i.ports),
        ("listening", flag i.listening)]⟩]
  | .error _ => []

/-- What the instance reports during a stop with that answer. -/
def stopLog (i : Instance) (answer : Except ServiceError Unit) : List Event :=
  match answer with
  | .ok _ => [⟨.debug, .fleet, "instance stopped",
      [("primary_port", toString i.config.primaryPort.toNat)]⟩]
  | .error _ => []

end Instance
end ServerTrials
