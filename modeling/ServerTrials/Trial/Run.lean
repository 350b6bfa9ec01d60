import ServerTrials.Log.Event
import ServerTrials.Server.ServiceError
import ServerTrials.Trial.Case

/-!
Running cases against a service.

For each case the service is started with the case's options, what it did is compared with what is
expected, and the service is stopped again if and only if it started:

    expected   started       not started
    accept     pass, stop    fail
    reject     fail, stop    pass

A stop that fails makes the case fail as well. A run goes on to the last case whatever happens.
-/

namespace ServerTrials.Trial

/-- A server under trial, as the effect of its calls on a state. A start that answers `false` did not
start. The logs are what the service itself reports during a call. -/
structure Service (σ : Type) where
  start : OptionMap → σ → Except ServiceError Bool × σ
  stop : σ → Except ServiceError Unit × σ
  startLog : OptionMap → σ → List Log.Event := fun _ _ => []
  stopLog : σ → List Log.Event := fun _ => []

/-- What the service did with a configuration. -/
inductive Observed where
  | accepted
  | rejected (reason : String)
  deriving DecidableEq, Repr

namespace Observed

/-- What the answer to a start shows. -/
def ofAnswer : Except ServiceError Bool → Observed
  | .ok true => .accepted
  | .ok false => .rejected "start returned false"
  | .error e => .rejected e.message

/-- Whether this was expected. -/
def meets : Observed → Expectation → Bool
  | .accepted, .accept => true
  | .rejected _, .reject => true
  | _, _ => false

/-- The reason of a rejection. -/
def reason? : Observed → Option String
  | .accepted => none
  | .rejected reason => some reason

/-- The observation as a log line shows it. -/
def label : Observed → String
  | .accepted => "Accepted"
  | .rejected reason => "Rejected \x7b reason: " ++ Text.quoted reason ++ " \x7d"

end Observed

/-- What became of a case. A case that failed is kept. -/
structure Outcome where
  ordinal : Nat
  expected : Expectation
  observed : Observed
  stopped : Bool
  stopError : Option String
  matched : Bool
  payload : Option Case
  deriving DecidableEq

namespace Outcome

/-- The wording of a failed call. -/
def errorText? : Except ServiceError Unit → Option String
  | .ok _ => none
  | .error e => some e.message

/-- The outcome of a case, given what was observed and the answer to the stop, if one was made. -/
def ofCalls (c : Case) (observed : Observed) (stop : Option (Except ServiceError Unit)) : Outcome :=
  let stopError := stop.bind errorText?
  let matched := observed.meets c.expected && stopError.isNone
  { ordinal := c.ordinal, expected := c.expected, observed, stopped := stop.isSome, stopError, matched,
    payload := if matched then none else some c }

/-- Why the case failed; none if it passed. -/
def failure? (o : Outcome) : Option String :=
  match o.observed, o.expected with
  | .accepted, .reject => some "did not reject an invalid configuration"
  | .rejected _, .accept => some "rejected a valid configuration"
  | _, _ => if o.stopError.isSome then some "stop failed after a successful start" else none

end Outcome

namespace Service

variable {σ : Type}

/-- Runs one case. -/
def execute (service : Service σ) (c : Case) (s : σ) : Outcome × σ :=
  let (answer, s) := service.start c.config s
  match Observed.ofAnswer answer with
  | .accepted =>
    let (stop, s) := service.stop s
    (.ofCalls c .accepted (some stop), s)
  | .rejected reason => (.ofCalls c (.rejected reason) none, s)

/-- Runs cases one after another. -/
def executeAll (service : Service σ) : List Case → σ → List Outcome × σ
  | [], s => ([], s)
  | c :: cs, s =>
    let (outcome, s) := service.execute c s
    let (outcomes, s) := service.executeAll cs s
    (outcome :: outcomes, s)

end Service

/-! ### Reports -/

/-- The totals of a run and the outcomes of the cases that failed. -/
structure Report where
  total : Nat := 0
  passed : Nat := 0
  accepted : Nat := 0
  rejected : Nat := 0
  expectedAccept : Nat := 0
  withSkips : Nat := 0
  stopCalls : Nat := 0
  failures : List Outcome := []
  deriving DecidableEq

namespace Report

/-- The report with one more outcome, of a case with or without skips. -/
def record (r : Report) (o : Outcome) (withSkips : Bool) : Report :=
  { total := r.total + 1
    passed := r.passed + if o.matched then 1 else 0
    accepted := r.accepted + if o.observed = .accepted then 1 else 0
    rejected := r.rejected + if o.observed = .accepted then 0 else 1
    expectedAccept := r.expectedAccept + if o.expected = .accept then 1 else 0
    withSkips := r.withSkips + if withSkips then 1 else 0
    stopCalls := r.stopCalls + if o.stopped then 1 else 0
    failures := if o.matched then r.failures else r.failures ++ [o] }

/-- Whether every case passed. -/
def isSuccess (r : Report) : Bool := r.failures.isEmpty

/-- How many cases failed. -/
def failed (r : Report) : Nat := r.failures.length

end Report

namespace Service

variable {σ : Type}

/-- Runs one case and records it. -/
def step (service : Service σ) (acc : Report × σ) (c : Case) : Report × σ :=
  let (outcome, s) := service.execute c acc.2
  (acc.1.record outcome (!c.skips.isEmpty), s)

/-- Runs cases one after another and reports on them. -/
def runCases (service : Service σ) (cases : List Case) (s : σ) : Report × σ :=
  cases.foldl service.step ({}, s)

/-- Runs every case of a table. -/
def run (service : Service σ) (t : Table) (s : σ) : Report × σ := service.runCases t.cases s

end Service

/-! ### Log -/

open Log

/-- The notes of a case on one line. -/
def skipsText (skips : List Skip) : String := "; ".intercalate (skips.map Skip.text)

/-- The reports about the outcome of a case. -/
def outcomeLog (c : Case) (o : Outcome) : List Event :=
  let ordinal := ("ordinal", toString c.ordinal)
  let config := ("config", c.config.text)
  (match o.stopError with
    | some e => [⟨.error, .trial, "stop failed", [ordinal, ("error", e)]⟩]
    | none => [])
  ++ [⟨.info, .trial, "case executed",
      [ordinal, config, ("expected", c.expected.name), ("observed", o.observed.label),
        ("skipped", skipsText c.skips), ("matched", flag o.matched)]⟩]
  ++ if o.matched then []
    else [⟨.warn, .trial, "case failed",
      [ordinal, config, ("failure", Text.quoted (o.failure?.getD "mismatch"))]⟩]

/-- The report about a whole run. -/
def reportLog (r : Report) : Event :=
  ⟨.info, .trial, "run complete",
    [("total", toString r.total), ("passed", toString r.passed), ("failed", toString r.failed),
      ("stop_calls", toString r.stopCalls)]⟩

namespace Service

variable {σ : Type}

/-- What is reported while one case runs. -/
def executeLog (service : Service σ) (c : Case) (s : σ) : List Event :=
  let (answer, started) := service.start c.config s
  let stopLog := match Observed.ofAnswer answer with
    | .accepted => service.stopLog started
    | .rejected _ => []
  service.startLog c.config s ++ stopLog ++ outcomeLog c (service.execute c s).1

/-- What is reported while cases run. -/
def executeAllLog (service : Service σ) : List Case → σ → List Event
  | [], _ => []
  | c :: cs, s => service.executeLog c s ++ service.executeAllLog cs (service.execute c s).2

/-- What is reported while the cases of a table run. -/
def runLog (service : Service σ) (t : Table) (s : σ) : List Event :=
  service.executeAllLog t.cases s ++ [reportLog (service.run t s).1]

end Service
end ServerTrials.Trial
