import ServerTrials.Fleet.Report
import ServerTrials.Fleet.Runtime
import ServerTrials.Log.Event

/-!
Running a fleet: create and start every instance, probe those that started, stop them.

The instances are created and started one after another. The probes of all started instances are spawned
as tasks, which are taken one after another as they are handed over, until none is left; each of them is
entered into the outcome of its instance, which is found by the number of the task. Then the started
instances are stopped in their order. A failure concerns its instance alone.

How instances behave is a `Factory` over a state of the world, how probes end is a `Prober`, and in which
order they go on is up to the `Runtime`.
-/

namespace ServerTrials.Fleet

open Log

/-- How instances are created, started, stopped and given up, and how their probes begin and end, as effects
on a world. A start that answers `false` did not start. The logs are what an instance itself reports during a
call. -/
structure Factory (ι ω : Type) where
  create : OptionMap → ω → Except ServiceError ι × ω
  start : ι → ω → Except ServiceError Bool × ι × ω
  stop : ι → ω → Except ServiceError Unit × ι × ω
  drop : ι → ω → ω := fun _ w => w
  begun : Probing → ω → ω := fun _ w => w
  ended : Probing → Ending → ω → ω := fun _ _ w => w
  createLog : OptionMap → ω → List Event := fun _ _ => []
  startLog : ι → ω → List Event := fun _ _ => []
  stopLog : ι → ω → List Event := fun _ _ => []

/-- Something that happens during a run: a call with its answer, or a probe that begins or has ended. -/
inductive Step where
  | create (index : Nat) (ports : PortPair) (answer : Except ServiceError Unit)
  | start (index : Nat) (port : UInt16) (answer : Except ServiceError Bool)
  | begun (probing : Probing)
  | ended (probing : Probing) (ending : Ending)
  | stop (index : Nat) (port : UInt16) (answer : Except ServiceError Unit)

/-- A step as a trace shows it; an end shows only if the probe came to it by itself. -/
def Step.text? : Step → Option String
  | .create _ ports _ => some ("create " ++ (instanceOptions ports).text)
  | .start _ port _ => some ("start " ++ toString port.toNat)
  | .begun p => some ("probe " ++ toString p.port.toNat)
  | .ended p ending => if ending.byItself then some ("probed " ++ toString p.port.toNat) else none
  | .stop _ port _ => some ("stop " ++ toString port.toNat)

/-- The field with an instance's index. -/
def indexField (index : Nat) : String × String := ("index", toString index)

/-! ### Starting -/

/-- An instance that runs, with its index and the port it was started on. -/
structure Running (ι : Type) where
  index : Nat
  port : UInt16
  inst : ι

/-- The creation and start of one instance: its outcome so far, the instance if it runs, and what
happened. -/
structure Launch (ι : Type) where
  outcome : InstanceOutcome
  running? : Option (Running ι)
  steps : List Step
  log : List Event

namespace Factory

variable {ι ω : Type}

/-- Starts the created instance of an outcome; one that does not run is given up. -/
def startCreated (f : Factory ι ω) (o : InstanceOutcome) (i : ι) (w : ω) : Launch ι × ω :=
  let log := f.startLog i w
  let (answer, i, w) := f.start i w
  let created := Step.create o.index o.ports (.ok ())
  let steps := [created, .start o.index o.ports.primary answer]
  match answer with
  | .ok true =>
    (⟨{ o with started := true }, some ⟨o.index, o.ports.primary, i⟩, steps,
      log ++ [⟨.debug, .fleet, "instance running",
        [indexField o.index, ("port", toString o.ports.primary.toNat)]⟩]⟩, w)
  | .ok false =>
    (⟨o.fail (.startDeclined o.index), none, steps,
      log ++ [⟨.warn, .fleet, "start returned false", [indexField o.index]⟩]⟩, f.drop i w)
  | .error e =>
    (⟨o.fail (.start o.index e), none, steps,
      log ++ [⟨.warn, .fleet, "start failed", [indexField o.index, ("error", e.message)]⟩]⟩,
      f.drop i w)

/-- Creates and starts the instance of an outcome. -/
def launch (f : Factory ι ω) (o : InstanceOutcome) (w : ω) : Launch ι × ω :=
  let options := instanceOptions o.ports
  let log := f.createLog options w
  match f.create options w with
  | (.error e, w) =>
    (⟨o.fail (.create o.index e), none, [.create o.index o.ports (.error e)],
      log ++ [⟨.warn, .fleet, "instance rejected",
        [indexField o.index, ("config", options.text), ("error", e.message)]⟩]⟩, w)
  | (.ok i, w) =>
    let (launch, w) := f.startCreated o i w
    ({ launch with log := log ++ launch.log }, w)

/-- Creates and starts the instances on pairs of ports one after another, numbered from `index`. -/
def launchAll (f : Factory ι ω) (index : Nat) : List PortPair → ω → List (Launch ι) × ω
  | [], w => ([], w)
  | ports :: rest, w =>
    let (launch, w) := f.launch (.new index ports) w
    let (launches, w) := f.launchAll (index + 1) rest w
    (launch :: launches, w)

end Factory

/-- The instances that run after launches. -/
def runningOf {ι : Type} (ls : List (Launch ι)) : List (Running ι) := ls.filterMap (·.running?)

/-! ### Probing -/

/-- The probe of a running instance. -/
def Running.probing {ι : Type} (r : Running ι) (host : String) : Probing := ⟨r.index, host, r.port⟩

/-- The tasks that probe running instances. -/
def Runtime.tasks {ι : Type} (rt : Runtime) (host : String) (rs : List (Running ι)) : List Task :=
  rt.spawn (rs.map (·.probing host))

/-- A probe that was handed over: which instance it was of, and what it counts as. -/
structure Completion where
  index : Nat
  result : Except ProbeError String

namespace Completion

/-- Enters a completion into the outcome of its instance. -/
def record (c : Completion) (o : InstanceOutcome) : InstanceOutcome :=
  match c.result with
  | .ok stdout => { o with probeOutput := some stdout }
  | .error e => o.fail (.probe c.index o.ports.primary e)

/-- The report about a completion, given the outcome of its instance. -/
def log (c : Completion) (o : InstanceOutcome) : Event :=
  let fields := [indexField c.index, ("port", toString o.ports.primary.toNat)]
  match c.result with
  | .ok stdout => ⟨.info, .fleet, "probe passed", fields ++ [("stdout", Text.trimEnd stdout)]⟩
  | .error e => ⟨.warn, .fleet, "probe failed", fields ++ [("error", e.message)]⟩

end Completion

/-- What a task completes that is handed over; none if its number is not one of those spawned. -/
def Task.completion? (spawned : List Task) (probe : Prober) (limit : Nat) (t : Task) : Option Completion :=
  (task? spawned t.number).map fun known => ⟨known.probing.index, (probe t.probing).result limit⟩

/-- What a moment is in the trace. -/
def Moment.step? (probe : Prober) : Moment → Option Step
  | .begun t => some (.begun t.probing)
  | .ended t => some (.ended t.probing (probe t.probing))
  | .joined _ => none

/-- What came of probing: the outcomes, how many tasks were handed over, what happened, what was reported, and
the world. -/
structure Probed (ω : Type) where
  outcomes : List InstanceOutcome
  completed : Nat
  steps : List Step
  log : List Event
  world : ω

/-- Enters records into the outcomes, each at its own index. -/
def enter {α : Type} (index : α → Nat) (record : α → InstanceOutcome → InstanceOutcome)
    (os : List InstanceOutcome) (records : List α) : List InstanceOutcome :=
  records.foldl (fun os r => os.modify (index r) (record r)) os

namespace Factory

variable {ι ω : Type}

/-- What a moment does to the world. -/
def pass (f : Factory ι ω) (probe : Prober) (w : ω) : Moment → ω
  | .begun t => f.begun t.probing w
  | .ended t => f.ended t.probing (probe t.probing) w
  | .joined _ => w

/-- Takes the tasks that are handed over, one after another until none is left, and enters what they
complete. One whose number is not known is only counted. -/
@[semireducible] -- so that a run on given instances computes
def joinAll (f : Factory ι ω) (spawned : List Task) (probe : Prober) (limit : Nat) (rt : Runtime)
    (tasks : List Active) (os : List InstanceOutcome) (w : ω) : Probed ω :=
  match found : rt.joinNext? tasks with
  | none => ⟨os, 0, [], [], w⟩
  | some j =>
    have := rt.momentsLeft_lt_of_joinNext? tasks j found
    let completions := (j.task.completion? spawned probe limit).toList
    let rest := f.joinAll spawned probe limit rt j.left (enter (·.index) Completion.record os completions)
      (j.meanwhile.foldl (f.pass probe) w)
    { rest with
      completed := rest.completed + 1
      steps := j.meanwhile.filterMap (Moment.step? probe) ++ rest.steps
      log := completions.flatMap (fun c => (os[c.index]?.map c.log).toList) ++ rest.log }
termination_by momentsLeft tasks

/-- Probes running instances side by side. -/
def probeAll (f : Factory ι ω) (rs : List (Running ι)) (s : Settings) (probe : Prober) (rt : Runtime)
    (os : List InstanceOutcome) (w : ω) : Probed ω :=
  let spawned := rt.tasks s.probeHost rs
  f.joinAll spawned probe s.probeTimeout rt (spawned.map Task.spawned) os w

end Factory

/-! ### Stopping -/

/-- The stop of one instance. -/
structure Halt where
  index : Nat
  port : UInt16
  answer : Except ServiceError Unit
  log : List Event

namespace Halt

/-- Enters a stop into the outcome of its instance. -/
def record (h : Halt) (o : InstanceOutcome) : InstanceOutcome :=
  match h.answer with
  | .ok _ => { o with stopped := true }
  | .error e => o.fail (.stop h.index e)

/-- A stop in the trace. -/
def step (h : Halt) : Step := .stop h.index h.port h.answer

end Halt

namespace Factory

variable {ι ω : Type}

/-- Stops a running instance and gives it up. -/
def halt (f : Factory ι ω) (r : Running ι) (w : ω) : Halt × ω :=
  let log := f.stopLog r.inst w
  let (answer, i, w) := f.stop r.inst w
  let failure := match answer with
    | .ok _ => []
    | .error e => [⟨.error, .fleet, "stop failed", [indexField r.index, ("error", e.message)]⟩]
  (⟨r.index, r.port, answer, log ++ failure⟩, f.drop i w)

/-- Stops running instances one after another. -/
def haltAll (f : Factory ι ω) : List (Running ι) → ω → List Halt × ω
  | [], w => ([], w)
  | r :: rest, w =>
    let (halt, w) := f.halt r w
    let (halts, w) := f.haltAll rest w
    (halt :: halts, w)

end Factory

/-! ### The run -/

/-- A finished run: its report, what happened in order, what was reported, and the world when the probes
were spawned and at the end. -/
structure Run (ω : Type) where
  report : FleetReport
  steps : List Step
  log : List Event
  whileProbing : ω
  world : ω

/-- Runs the instances on the given pairs of ports; probe host and time limit are those of the settings. -/
def Factory.run {ι ω : Type} (f : Factory ι ω) (pairs : List PortPair) (s : Settings) (probe : Prober)
    (rt : Runtime) (w : ω) : Run ω :=
  let (launches, probingWorld) := f.launchAll 0 pairs w
  let running := runningOf launches
  let probed := f.probeAll running s probe rt (launches.map (·.outcome)) probingWorld
  let (halts, after) := f.haltAll running probed.world
  let report : FleetReport := ⟨enter (·.index) Halt.record probed.outcomes halts, probed.completed⟩
  { report
    steps := launches.flatMap (·.steps) ++ probed.steps ++ halts.map Halt.step
    log := launches.flatMap (·.log)
      ++ [⟨.info, .fleet, "instances started",
          [("created", toString launches.length), ("started", toString running.length)]⟩]
      ++ probed.log
      ++ [⟨.info, .fleet, "instances probed",
          [("probes_completed", toString report.probesCompleted)]⟩]
      ++ halts.flatMap (·.log)
      ++ [⟨.info, .fleet, "instances stopped",
          [("stopped", toString report.stopped), ("failures", toString report.errors.length)]⟩]
    whileProbing := probingWorld
    world := after }

end ServerTrials.Fleet
