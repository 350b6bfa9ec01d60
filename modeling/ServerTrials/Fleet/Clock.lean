import ServerTrials.Fleet.Runtime
import ServerTrials.Text.Quoted

/-!
Probes that follow a plan on a clock.

A plan says how long a probe takes and how it ends. All probes begin at the same moment, one after
another; one that takes no time ends before the next begins. A probe that takes longer than the limit
ends at the limit. The others end in the order of their times, and at the same time in the order of
their beginnings.
-/

namespace ServerTrials.Fleet

/-- How a probe ends if its time suffices; an answer that is not given names host and port. -/
inductive PlannedEnd where
  | panic (text : String)
  | failure (error : ProbeError)
  | answer (stdout : Option String)
  deriving DecidableEq, Repr

/-- The plan of a probe; times are in milliseconds. -/
structure Plan where
  delay : Nat
  ending : PlannedEnd
  deriving DecidableEq, Repr

/-- The plans of the probes by port, the plan of the others, and the time limit. -/
structure Clock where
  planned : List (UInt16 × Plan)
  otherwise : Plan
  limit : Nat
  deriving DecidableEq, Repr

namespace Plan

/-- When the probe ends. -/
def endTime (p : Plan) (limit : Nat) : Nat := min p.delay limit

/-- How the probe of a host and port ends. The text of one that breaks off shows no task number. -/
def endingOf (p : Plan) (limit : Nat) (probing : Probing) : Ending :=
  if p.delay ≤ limit then
    match p.ending with
    | .panic text => .broken ("task # panicked with message " ++ Text.quoted text)
    | .failure e => .failed e
    | .answer (some stdout) => .passed stdout
    | .answer none => .passed (probing.host ++ ":" ++ toString probing.port.toNat ++ " ok\n")
  else .late

end Plan

namespace Clock

/-- The plan of a probe. -/
def plan (c : Clock) (p : Probing) : Plan :=
  match c.planned.find? (·.1 == p.port) with
  | some (_, plan) => plan
  | none => c.otherwise

/-- When a probe ends. -/
def endTime (c : Clock) (p : Probing) : Nat := (c.plan p).endTime c.limit

/-- How the probes end. -/
def prober (c : Clock) : Prober := fun p => (c.plan p).endingOf c.limit p

/-- When it is a task's turn: one that has ended is handed over at once, one that takes no time ends as soon as
it has begun, then the others begin, and those that take time end in the order of their times. -/
def rank (c : Clock) (a : Active) : Nat :=
  match a.stage with
  | .ended => 0
  | .going => if c.endTime a.task.probing = 0 then 1 else c.endTime a.task.probing + 2
  | .spawned => 2

/-- The clock as a runtime, which numbers the tasks in their order. -/
def runtime (c : Clock) : Runtime := .ranked c.rank

end Clock
end ServerTrials.Fleet
