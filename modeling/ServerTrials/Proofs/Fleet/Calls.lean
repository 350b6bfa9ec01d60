import ServerTrials.Proofs.Fleet.Tasks

/-!
The calls that a run makes.

The steps of a run are what the run says of itself. What is really called is seen by the factory, so an
observed factory does as the one below it and notes every call that it gets, and the probes that begin and
end, with the world that each leaves. A run over the observed factory is the run over the one below, and the
calls noted are those of its steps, in their order.
-/

namespace ServerTrials.Fleet

variable {ι ω : Type}

/-- A call that a factory gets, with its answer, or a probe that begins or has ended; instances are numbered
as they are asked for. -/
inductive Call where
  | create (number : Nat) (options : OptionMap) (answer : Except ServiceError Unit)
  | start (number : Nat) (answer : Except ServiceError Bool)
  | begun (probing : Probing)
  | ended (probing : Probing) (ending : Ending)
  | stop (number : Nat) (answer : Except ServiceError Unit)

/-- The call that a step tells of. -/
def Step.call : Step → Call
  | .create i ports answer => .create i (instanceOptions ports) answer
  | .start i _ answer => .start i answer
  | .begun p => .begun p
  | .ended p ending => .ended p ending
  | .stop i _ answer => .stop i answer

/-- A call, and the world that it leaves. -/
structure Note (ω : Type) where
  call : Call
  world : ω

/-- A world, how many instances were asked for in it, and what was noted so far. -/
structure Observed (ω : Type) where
  world : ω
  asked : Nat
  notes : List (Note ω)

namespace Observed

/-- The calls that were noted. -/
def calls (o : Observed ω) : List Call := o.notes.map (·.call)

/-- Notes a call and the world that it leaves. -/
def note (o : Observed ω) (call : Call) (world : ω) : Observed ω :=
  ⟨world, o.asked, o.notes ++ [⟨call, world⟩]⟩

end Observed

namespace Factory

/-- The factory that numbers the instances and notes the calls. -/
def observed (f : Factory ι ω) : Factory (Nat × ι) (Observed ω) where
  create o w :=
    let (created, world) := f.create o w.world
    (created.map (w.asked, ·),
      { w.note (.create w.asked o (created.map fun _ => ())) world with asked := w.asked + 1 })
  start i w :=
    let (answer, inst, world) := f.start i.2 w.world
    (answer, (i.1, inst), w.note (.start i.1 answer) world)
  stop i w :=
    let (answer, inst, world) := f.stop i.2 w.world
    (answer, (i.1, inst), w.note (.stop i.1 answer) world)
  drop i w := { w with world := f.drop i.2 w.world }
  begun p w := w.note (.begun p) (f.begun p w.world)
  ended p ending w := w.note (.ended p ending) (f.ended p ending w.world)
  createLog o w := f.createLog o w.world
  startLog i w := f.startLog i.2 w.world
  stopLog i w := f.stopLog i.2 w.world

/-! ### What is to be noted -/

/-- The notes of a launch. -/
def launchNotes (f : Factory ι ω) (o : InstanceOutcome) (w : ω) : List (Note ω) :=
  let options := instanceOptions o.ports
  match f.create options w with
  | (.error e, w) => [⟨.create o.index options (.error e), w⟩]
  | (.ok i, w) =>
    let (answer, _, started) := f.start i w
    [⟨.create o.index options (.ok ()), w⟩, ⟨.start o.index answer, started⟩]

/-- The notes of all launches. -/
def launchAllNotes (f : Factory ι ω) (n : Nat) : List PortPair → ω → List (Note ω)
  | [], _ => []
  | ports :: pairs, w =>
    f.launchNotes (.new n ports) w ++ f.launchAllNotes (n + 1) pairs (f.launch (.new n ports) w).2

/-- The notes of moments. -/
def passNotes (f : Factory ι ω) (probe : Prober) : List Moment → ω → List (Note ω)
  | [], _ => []
  | m :: ms, w =>
    ((m.step? probe).map fun st => ⟨st.call, f.pass probe w m⟩).toList
      ++ f.passNotes probe ms (f.pass probe w m)

/-- The notes of all stops. -/
def haltAllNotes (f : Factory ι ω) : List (Running ι) → ω → List (Note ω)
  | [], _ => []
  | r :: rs, w =>
    ⟨.stop r.index (f.stop r.inst w).1, (f.stop r.inst w).2.2⟩ :: f.haltAllNotes rs (f.halt r w).2

/-- The notes of a run. -/
def runNotes (f : Factory ι ω) (pairs : List PortPair) (s : Settings) (probe : Prober) (rt : Runtime)
    (w : ω) : List (Note ω) :=
  let (launches, launched) := f.launchAll 0 pairs w
  let running := runningOf launches
  f.launchAllNotes 0 pairs w ++ f.passNotes probe (rt.course (rt.tasks s.probeHost running)) launched
    ++ f.haltAllNotes running (f.probedWorld pairs s probe rt w)

end Factory

/-- A running instance under its number. -/
def Running.numbered (r : Running ι) : Running (Nat × ι) := ⟨r.index, r.port, r.index, r.inst⟩

/-- A launch with its instance under its number. -/
def Launch.numbered (l : Launch ι) : Launch (Nat × ι) :=
  ⟨l.outcome, l.running?.map Running.numbered, l.steps, l.log⟩

theorem runningOf_numbered (ls : List (Launch ι)) :
    runningOf (ls.map Launch.numbered) = (runningOf ls).map Running.numbered := by
  rw [runningOf, runningOf, List.filterMap_map, List.map_filterMap]
  rfl

/-! ### One launch, one moment, one stop -/

theorem launch_observed (f : Factory ι ω) (o : InstanceOutcome) (w : ω) (notes : List (Note ω)) :
    f.observed.launch o ⟨w, o.index, notes⟩ = ((f.launch o w).1.numbered,
      ⟨(f.launch o w).2, o.index + 1, notes ++ f.launchNotes o w⟩) := by
  rcases h : f.create (instanceOptions o.ports) w with ⟨created, w'⟩
  have noted : f.observed.create (instanceOptions o.ports) ⟨w, o.index, notes⟩ =
      (created.map (o.index, ·), ⟨w', o.index + 1,
        notes ++ [⟨.create o.index (instanceOptions o.ports) (created.map fun _ => ()), w'⟩]⟩) := by
    simp only [Factory.observed, h, Observed.note]
  rw [Factory.launch, Factory.launch, Factory.launchNotes, h, noted]
  cases created with
  | error e => rfl
  | ok i =>
    rcases started : f.start i w' with ⟨answer, i', w''⟩
    simp only [Except.map, Factory.startCreated, started]
    simp only [Factory.observed, Observed.note, started, List.append_assoc, List.singleton_append]
    rcases answer with e | (_ | _) <;> rfl

section

variable {f : Factory ι ω} (o : InstanceOutcome) {w w₁ w₂ : ω} {i i' : ι} {e : ServiceError}
  {answer : Except ServiceError Bool}

theorem launchNotes_of_refused (create : f.create (instanceOptions o.ports) w = (.error e, w₁)) :
    f.launchNotes o w = [⟨.create o.index (instanceOptions o.ports) (.error e), w₁⟩] := by
  rw [Factory.launchNotes, create]

theorem launchNotes_of_created (create : f.create (instanceOptions o.ports) w = (.ok i, w₁))
    (start : f.start i w₁ = (answer, i', w₂)) : f.launchNotes o w =
      [⟨.create o.index (instanceOptions o.ports) (.ok ()), w₁⟩, ⟨.start o.index answer, w₂⟩] := by
  rw [Factory.launchNotes, create]
  simp only [start]

end

theorem Launched.map_call_launchNotes {f : Factory ι ω} {o : InstanceOutcome} {w w' : ω} {l : Launch ι}
    (h : Launched f o w l w') : (f.launchNotes o w).map (·.call) = l.steps.map Step.call := by
  cases h with
  | refused _ create => rw [launchNotes_of_refused o create]; rfl
  | declined _ create start | failed _ create start | runs _ create start =>
    rw [launchNotes_of_created o create start]
    rfl

theorem pass_observed (f : Factory ι ω) (probe : Prober) (w : ω) (n : Nat) (notes : List (Note ω)) :
    ∀ m : Moment, f.observed.pass probe ⟨w, n, notes⟩ m = ⟨f.pass probe w m, n,
      notes ++ ((m.step? probe).map fun st => ⟨st.call, f.pass probe w m⟩).toList⟩
  | .begun _ | .ended _ => rfl
  | .joined _ => by simp [Factory.pass, Moment.step?]

theorem halt_observed (f : Factory ι ω) (r : Running ι) (w : ω) (n : Nat) (notes : List (Note ω)) :
    f.observed.halt r.numbered ⟨w, n, notes⟩ = ((f.halt r w).1,
      ⟨(f.halt r w).2, n, notes ++ [⟨.stop r.index (f.stop r.inst w).1, (f.stop r.inst w).2.2⟩]⟩) := rfl

/-! ### The loops -/

theorem launchAll_observed (f : Factory ι ω) : ∀ (pairs : List PortPair) (n : Nat) (w : ω)
    (notes : List (Note ω)), f.observed.launchAll n pairs ⟨w, n, notes⟩ =
      ((f.launchAll n pairs w).1.map Launch.numbered, ⟨(f.launchAll n pairs w).2, n + pairs.length,
        notes ++ f.launchAllNotes n pairs w⟩)
  | [], n, w, notes => by simp [Factory.launchAll, Factory.launchAllNotes]
  | ports :: pairs, n, w, notes => by
    have first := launch_observed f (.new n ports) w notes
    have rest := launchAll_observed f pairs (n + 1) (f.launch (.new n ports) w).2
      (notes ++ f.launchNotes (.new n ports) w)
    simp only [InstanceOutcome.new] at first rest
    simp only [Factory.launchAll, Factory.launchAllNotes, InstanceOutcome.new, first, rest, List.map_cons,
      List.append_assoc, List.length_cons, Nat.add_assoc, Nat.add_comm 1]

theorem map_call_launchAllNotes (f : Factory ι ω) : ∀ (pairs : List PortPair) (n : Nat) (w : ω),
    (f.launchAllNotes n pairs w).map (·.call) =
      ((f.launchAll n pairs w).1.flatMap (·.steps)).map Step.call
  | [], _, _ => rfl
  | ports :: pairs, n, w => by
    rw [Factory.launchAllNotes, List.map_append, (launched_launch f (.new n ports) w).map_call_launchNotes,
      map_call_launchAllNotes f pairs]
    simp [Factory.launchAll]

theorem foldl_pass_observed (f : Factory ι ω) (probe : Prober) (n : Nat) : ∀ (ms : List Moment) (w : ω)
    (notes : List (Note ω)), ms.foldl (f.observed.pass probe) ⟨w, n, notes⟩ =
      ⟨ms.foldl (f.pass probe) w, n, notes ++ f.passNotes probe ms w⟩
  | [], w, notes => by simp [Factory.passNotes]
  | m :: ms, w, notes => by
    rw [List.foldl_cons, List.foldl_cons, pass_observed, foldl_pass_observed f probe n ms,
      Factory.passNotes, List.append_assoc]

theorem map_call_passNotes (f : Factory ι ω) (probe : Prober) : ∀ (ms : List Moment) (w : ω),
    (f.passNotes probe ms w).map (·.call) = (ms.filterMap (Moment.step? probe)).map Step.call
  | [], _ => rfl
  | m :: ms, w => by
    rw [Factory.passNotes, List.map_append, map_call_passNotes f probe ms, List.filterMap_cons]
    cases m <;> rfl

theorem haltAll_observed (f : Factory ι ω) : ∀ (rs : List (Running ι)) (w : ω) (n : Nat)
    (notes : List (Note ω)), f.observed.haltAll (rs.map Running.numbered) ⟨w, n, notes⟩ =
      ((f.haltAll rs w).1, ⟨(f.haltAll rs w).2, n, notes ++ f.haltAllNotes rs w⟩)
  | [], w, n, notes => by simp [Factory.haltAll, Factory.haltAllNotes]
  | r :: rs, w, n, notes => by
    rw [List.map_cons, Factory.haltAll, halt_observed]
    simp only [haltAll_observed f rs]
    simp [Factory.haltAll, Factory.haltAllNotes]

theorem map_call_haltAllNotes (f : Factory ι ω) : ∀ (rs : List (Running ι)) (w : ω),
    (f.haltAllNotes rs w).map (·.call) = ((f.haltAll rs w).1.map Halt.step).map Step.call
  | [], _ => rfl
  | r :: rs, w => by
    rw [Factory.haltAllNotes, List.map_cons, map_call_haltAllNotes f rs]
    rfl

theorem tasks_numbered (rt : Runtime) (host : String) (rs : List (Running ι)) :
    rt.tasks host (rs.map Running.numbered) = rt.tasks host rs := by
  rw [Runtime.tasks, Runtime.tasks, List.map_map]
  rfl

theorem probeAll_observed (f : Factory ι ω) (rs : List (Running ι)) (s : Settings) (probe : Prober)
    (rt : Runtime) (os : List InstanceOutcome) (w : ω) (n : Nat) (notes : List (Note ω)) :
    let observed := f.observed.probeAll (rs.map Running.numbered) s probe rt os ⟨w, n, notes⟩
    let plain := f.probeAll rs s probe rt os w
    observed.outcomes = plain.outcomes ∧ observed.completed = plain.completed ∧
      observed.steps = plain.steps ∧ observed.world =
        ⟨plain.world, n, notes ++ f.passNotes probe (rt.course (rt.tasks s.probeHost rs)) w⟩ := by
  obtain ⟨outcomes, completed, steps, world⟩ := probeAll_eq f.observed (rs.map Running.numbered) s probe rt
    os ⟨w, n, notes⟩
  obtain ⟨outcomes', completed', steps', world'⟩ := probeAll_eq f rs s probe rt os w
  rw [tasks_numbered] at outcomes completed steps world
  refine ⟨outcomes.trans outcomes'.symm, completed.trans completed'.symm, steps.trans steps'.symm, ?_⟩
  rw [world, world', foldl_pass_observed]

/-! ### The run -/

/-- Observing a run changes nothing but what is noted: its calls. -/
theorem run_observed (f : Factory ι ω) (pairs : List PortPair) (s : Settings) (probe : Prober)
    (rt : Runtime) (w : ω) :
    (f.observed.run pairs s probe rt ⟨w, 0, []⟩).report = (f.run pairs s probe rt w).report ∧
    (f.observed.run pairs s probe rt ⟨w, 0, []⟩).steps = (f.run pairs s probe rt w).steps ∧
    (f.observed.run pairs s probe rt ⟨w, 0, []⟩).world = ⟨(f.run pairs s probe rt w).world,
      pairs.length, f.runNotes pairs s probe rt w⟩ := by
  have same_outcomes : ∀ ls : List (Launch ι), (ls.map Launch.numbered).map (·.outcome)
      = ls.map (·.outcome) := fun ls => List.map_map
  have same_steps : ∀ ls : List (Launch ι), (ls.map Launch.numbered).flatMap (·.steps)
      = ls.flatMap (·.steps) := fun ls => by
    rw [List.flatMap_map]
    rfl
  obtain ⟨outcomes, completed, steps, world⟩ := probeAll_observed f (runningOf (f.launchAll 0 pairs w).1) s
    probe rt ((f.launchAll 0 pairs w).1.map (·.outcome)) (f.launchAll 0 pairs w).2 pairs.length
    (f.launchAllNotes 0 pairs w)
  simp only [Factory.run, Factory.runNotes, launchAll_observed, runningOf_numbered, same_outcomes, same_steps,
    List.nil_append, Nat.zero_add, outcomes, completed, steps, world, haltAll_observed, world_probeAll,
    and_self]

/-- The calls that are noted are those of the steps. -/
theorem map_call_runNotes (f : Factory ι ω) (pairs : List PortPair) (s : Settings) (probe : Prober)
    (rt : Runtime) (w : ω) :
    (f.runNotes pairs s probe rt w).map (·.call) = (f.run pairs s probe rt w).steps.map Step.call := by
  have steps := (probeAll_eq f (runningOf (f.launchAll 0 pairs w).1) s probe rt
    ((f.launchAll 0 pairs w).1.map (·.outcome)) (f.launchAll 0 pairs w).2).2.2.1
  simp only [Factory.run, Factory.runNotes, List.map_append, map_call_launchAllNotes, map_call_passNotes,
    map_call_haltAllNotes, steps, world_probeAll]

end ServerTrials.Fleet
