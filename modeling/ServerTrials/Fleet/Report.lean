import ServerTrials.Fleet.Error
import ServerTrials.Fleet.Settings

/-!
The report of a fleet: what became of each instance.

An outcome starts out empty and is filled in while the fleet runs; failures are added at its end.
-/

namespace ServerTrials.Fleet

/-- What became of one instance, with its failures in the order they happened. -/
structure InstanceOutcome where
  index : Nat
  ports : PortPair
  started : Bool
  probeOutput : Option String
  stopped : Bool
  errors : List InstanceError
  deriving DecidableEq, Repr

namespace InstanceOutcome

/-- The outcome of an instance of which nothing is known yet. -/
def new (index : Nat) (ports : PortPair) : InstanceOutcome := ⟨index, ports, false, none, false, []⟩

/-- The outcome with one more failure. -/
def fail (o : InstanceOutcome) (e : InstanceError) : InstanceOutcome :=
  { o with errors := o.errors ++ [e] }

end InstanceOutcome

/-- What became of all instances, and how many probes came to an end. -/
structure FleetReport where
  instances : List InstanceOutcome
  probesCompleted : Nat
  deriving DecidableEq, Repr

namespace FleetReport

/-- All failures in instance order. -/
def errors (r : FleetReport) : List InstanceError := r.instances.flatMap (·.errors)

/-- The first failure in instance order. -/
def firstError? (r : FleetReport) : Option InstanceError := r.errors.head?

/-- Whether nothing failed. -/
def isSuccess (r : FleetReport) : Bool := r.firstError?.isNone

/-- How many instances started. -/
def started (r : FleetReport) : Nat := r.instances.countP (·.started)

/-- How many instances were stopped. -/
def stopped (r : FleetReport) : Nat := r.instances.countP (·.stopped)

/-- Nothing, or the first failure. -/
def result (r : FleetReport) : Except InstanceError Unit :=
  match r.firstError? with
  | some e => .error e
  | none => .ok ()

end FleetReport
end ServerTrials.Fleet
