import ServerTrials.Proofs.Fleet.Claims
import ServerTrials.Proofs.Fleet.Outcomes
import ServerTrials.Proofs.Server.Pool

/-!
Fleets of simulated instances that do not listen, beside others that hold ports.

An instance of the fleet starts iff its port is not zero and free of the others, and it holds the port while
it runs. So the report can be told from the ports and the registry of the others alone.
-/

namespace ServerTrials.Fleet

/-! ### The run -/

/-- What becomes of a simulated instance beside others that hold ports. -/
def InstanceOutcome.beside (others : Registry) (index : Nat) (ports : PortPair)
    (result : Except ProbeError String) : InstanceOutcome :=
  let unknown := InstanceOutcome.new index ports
  if ports.primary = 0 then
    unknown.fail (.create index (.invalidConfig (.portOutOfRange Key.primaryPort 0)))
  else if others.isClaimed .tcp ports.primary then
    unknown.fail (.start index (.addressInUse ports.primary))
  else .served index ports result (.ok ())

section

variable {host : Host} {bind : Binder} {s : Settings} {pairs : List PortPair} {probe : Prober}
  {rt : Runtime} {others : Registry}

theorem outcome_of_simulated (allocated : s.Allocated pairs) {i : Nat} {ports : PortPair}
    (hk : pairs[i]? = some ports) :
    ((simulated host bind).run pairs s probe rt ⟨0, others⟩).report.instances[i]? =
      some (.beside others i ports
        ((probe ⟨i, s.probeHost, ports.primary⟩).result s.probeTimeout)) := by
  have launches := launchedFrom_launchAll (simulated host bind) pairs 0 ⟨0, others⟩
  obtain ⟨-, l, w₁, w₂, -, hl, launched⟩ := launches.exists_launch hk
  rw [Nat.zero_add] at launched
  cases launches.opened allocated hk hl with
  | refused zero running outcome =>
    rw [outcome_run_of_idle hl running, outcome, InstanceOutcome.beside, if_pos zero]
  | taken pos held running outcome =>
    rw [outcome_run_of_idle hl running, outcome, InstanceOutcome.beside, if_neg pos,
      if_pos (Registry.isClaimed_iff.2 held)]
  | runs pos free r running serves =>
    obtain ⟨w', served⟩ := outcome_run_of_running hl launched running
    rw [served, stop_of_serves serves, InstanceOutcome.beside, if_neg pos,
      if_neg (mt Registry.isClaimed_iff.1 free)]

/-- Beside others a fleet holds the ports of its running instances, and leaves the registry as it was. -/
theorem registry_of_simulated (allocated : s.Allocated pairs) :
    let run := (simulated host bind).run pairs s probe rt ⟨0, others⟩
    (∀ c, c ∈ run.whileProbing.registry.claimed ↔ c ∈ others.claimed ∨
      ∃ r ∈ runningOf ((simulated host bind).launchAll 0 pairs ⟨0, others⟩).1, c = r.claim) ∧
    run.world.registry = others := by
  have holding := (launchedFrom_launchAll (simulated host bind) pairs 0 ⟨0, others⟩).holding allocated
  refine ⟨fun c => ?_, ?_⟩
  · rw [whileProbing_run, holding.mem_claimed_iff]
  · rw [world_run, probedWorld_of_quiet quiet_simulated]
    exact congrArg Registry.mk (holding.claimed_haltAll host bind)

/-! ### The report -/

/-- What a run beside other running instances reports about instance `i`, if its primary port is that
number. -/
structure ReportedBeside (others : Registry) (i number : Nat) (o : InstanceOutcome) : Prop where
  index : o.index = i
  port : o.ports.primary.toNat = number
  started : o.started = true ↔ number ≠ 0 ∧ (.tcp, o.ports.primary) ∉ others.claimed
  refused : number = 0 →
    o.errors = [.create i (.invalidConfig (.portOutOfRange Key.primaryPort 0))]
  taken : (.tcp, o.ports.primary) ∈ others.claimed →
    o.errors = [.start i (.addressInUse o.ports.primary)]
  stopped : o.stopped = o.started
  probed : o.started = true → ∀ e ∈ o.errors, ∃ cause, e = .probe i o.ports.primary cause

theorem ports_beside (i : Nat) (ports : PortPair) (result : Except ProbeError String) :
    (InstanceOutcome.beside others i ports result).ports = ports := by
  rw [InstanceOutcome.beside]
  split
  · rfl
  · split <;> rfl

theorem reportedBeside (sound : (.tcp, 0) ∉ others.claimed) (i : Nat) (ports : PortPair)
    (result : Except ProbeError String) :
    ReportedBeside others i ports.primary.toNat (.beside others i ports result) := by
  rw [InstanceOutcome.beside]
  by_cases zero : ports.primary = 0
  · rw [if_pos zero]
    exact
      { index := rfl
        port := rfl
        started := iff_of_false Bool.false_ne_true fun h => h.1 (toNat_eq_zero_iff.2 zero)
        refused := fun _ => rfl
        taken := fun held => absurd (zero ▸ held) sound
        stopped := rfl
        probed := fun h => absurd h Bool.false_ne_true }
  · rw [if_neg zero]
    by_cases held : (.tcp, ports.primary) ∈ others.claimed
    · rw [if_pos (Registry.isClaimed_iff.2 held)]
      exact
        { index := rfl
          port := rfl
          started := iff_of_false Bool.false_ne_true fun h => h.2 held
          refused := fun h => absurd (toNat_eq_zero_iff.1 h) zero
          taken := fun _ => rfl
          stopped := rfl
          probed := fun h => absurd h Bool.false_ne_true }
    · rw [if_neg (mt Registry.isClaimed_iff.1 held)]
      exact
        { index := rfl
          port := rfl
          started := iff_of_true rfl ⟨mt toNat_eq_zero_iff.1 zero, held⟩
          refused := fun h => absurd (toNat_eq_zero_iff.1 h) zero
          taken := fun h => absurd h held
          stopped := rfl
          probed := fun _ e he => by
            cases result with
            | ok _ => simp [InstanceOutcome.served] at he
            | error cause => exact ⟨cause, by simpa [InstanceOutcome.served] using he⟩ }

/-- All failures that an instance can have. -/
theorem ReportedBeside.error_cases {i number : Nat} {o : InstanceOutcome}
    (h : ReportedBeside others i number o) {e : InstanceError} (he : e ∈ o.errors) :
    (∃ cause, e = .create i cause) ∨
    (e = .start i (.addressInUse o.ports.primary) ∧ (.tcp, o.ports.primary) ∈ others.claimed) ∨
    ∃ cause, e = .probe i o.ports.primary cause := by
  by_cases zero : number = 0
  · rw [h.refused zero] at he
    exact Or.inl ⟨_, List.mem_singleton.1 he⟩
  · by_cases held : (.tcp, o.ports.primary) ∈ others.claimed
    · rw [h.taken held] at he
      exact Or.inr (Or.inl ⟨List.mem_singleton.1 he, held⟩)
    · exact Or.inr (Or.inr (h.probed (h.started.2 ⟨zero, held⟩) e he))

theorem reported_of_simulated (allocated : s.Allocated pairs) (sound : (.tcp, 0) ∉ others.claimed) {i : Nat}
    {o : InstanceOutcome}
    (ho : ((simulated host bind).run pairs s probe rt ⟨0, others⟩).report.instances[i]? = some o) :
    pairs[i]? = some o.ports ∧ ReportedBeside others i (s.basePort.toNat + 2 * i) o := by
  have length := length_instances_run (simulated host bind) pairs s probe rt ⟨0, others⟩
  have lt : i < pairs.length := length ▸ (List.getElem?_eq_some_iff.1 ho).1
  have hports := List.getElem?_eq_getElem lt
  obtain rfl := Option.some.inj ((outcome_of_simulated allocated hports).symm.trans ho)
  rw [ports_beside, ← allocated.primary i _ hports]
  exact ⟨hports, reportedBeside sound i _ _⟩

theorem error_of_simulated (allocated : s.Allocated pairs) (sound : (.tcp, 0) ∉ others.claimed)
    {e : InstanceError}
    (he : e ∈ ((simulated host bind).run pairs s probe rt ⟨0, others⟩).report.errors) :
    ∃ i port, (∃ cause, e = .create i cause) ∨
      (e = .start i (.addressInUse port) ∧ (.tcp, port) ∈ others.claimed) ∨
      ∃ cause, e = .probe i port cause := by
  obtain ⟨o, ho, he⟩ := List.mem_flatMap.1 he
  obtain ⟨i, hi⟩ := List.mem_iff_getElem?.1 ho
  exact ⟨i, o.ports.primary, (reported_of_simulated allocated sound hi).2.error_cases he⟩

/-- The instances that started are those that run after the launches. -/
theorem started_of_simulated (allocated : s.Allocated pairs) (sound : (.tcp, 0) ∉ others.claimed)
    (P : Nat → Prop) {c : Protocol × UInt16} :
    (∃ o ∈ ((simulated host bind).run pairs s probe rt ⟨0, others⟩).report.instances,
      o.started = true ∧ P o.index ∧ c = (.tcp, o.ports.primary)) ↔
    ∃ r ∈ runningOf ((simulated host bind).launchAll 0 pairs ⟨0, others⟩).1, P r.index ∧ c = r.claim := by
  rw [(launchedFrom_launchAll (simulated host bind) pairs 0 ⟨0, others⟩).exists_running_iff allocated]
  constructor
  · rintro ⟨o, ho, started, holds, rfl⟩
    obtain ⟨i, hi⟩ := List.mem_iff_getElem?.1 ho
    obtain ⟨hports, reported⟩ := reported_of_simulated allocated sound hi
    obtain ⟨pos, free⟩ := reported.started.1 started
    rw [← reported.port] at pos
    exact ⟨i, o.ports, hports, reported.index ▸ holds, mt toNat_eq_zero_iff.2 pos, free, rfl⟩
  · rintro ⟨i, ports, hports, holds, pos, free, rfl⟩
    have outcome : ((simulated host bind).run pairs s probe rt ⟨0, others⟩).report.instances[i]? = _ :=
      outcome_of_simulated allocated hports
    rw [InstanceOutcome.beside, if_neg pos, if_neg (mt Registry.isClaimed_iff.1 free)] at outcome
    exact ⟨_, List.mem_of_getElem? outcome, rfl, holds, rfl⟩

/-- A fleet of simulated instances beside the running instances of a pool, on any host, with any probe
results and in any order of probes. An instance starts iff its port is not zero and none of the others
holds it, so instances of the fleet are never in each other's way. While probes go on, the registry holds
what the others hold and the ports of the instances that started; after the run, just what the others
hold. In fact this is so after each call: an instance has its port from its start on, and the stop itself
gives it back. -/
theorem run_beside_pool (moves : List Pool.Move) (fits : s.portPairs = .ok pairs) (host : Host)
    (bind : Binder) (probe : Prober) (rt : Runtime) :
    let others := (Pool.empty.run moves).registry
    let run := (simulated host bind).run pairs s probe rt ⟨0, others⟩
    let notes := ((simulated host bind).observed.run pairs s probe rt ⟨⟨0, others⟩, 0, []⟩).world.notes
    run.report.instances.length = s.instanceCount ∧
    (∀ i o, run.report.instances[i]? = some o →
      ReportedBeside others i (s.basePort.toNat + 2 * i) o) ∧
    (∀ i e, InstanceError.start i e ∈ run.report.errors →
      ∃ port, e = .addressInUse port ∧ (.tcp, port) ∈ others.claimed) ∧
    (∀ i e, InstanceError.stop i e ∉ run.report.errors) ∧
    (∀ c, c ∈ run.whileProbing.registry.claimed ↔ c ∈ others.claimed ∨
      ∃ o ∈ run.report.instances, o.started = true ∧ c = (.tcp, o.ports.primary)) ∧
    notes.map (·.call) = run.steps.map Step.call ∧
    (∀ x ∈ notes, ∀ c, c ∈ x.world.registry.claimed ↔ c ∈ others.claimed ∨
      ∃ o ∈ run.report.instances, o.started = true ∧ x.call.LeavesRunning o.index ∧
        c = (.tcp, o.ports.primary)) ∧
    run.world.registry = others := by
  intro others run notes
  have allocated := Settings.allocated_of_portPairs fits
  have sound : (.tcp, 0) ∉ others.claimed := fun h =>
    (Pool.Consistent.empty.run moves).port_ne_zero h rfl
  have noted : notes = (simulated host bind).runNotes pairs s probe rt ⟨0, others⟩ :=
    congrArg Observed.notes (run_observed (simulated host bind) pairs s probe rt ⟨0, others⟩).2.2
  obtain ⟨claimed, left⟩ := registry_of_simulated allocated
  refine ⟨(length_instances_run ..).trans allocated.length,
    fun i o ho => (reported_of_simulated allocated sound ho).2, fun i e he => ?_, fun i e he => ?_,
    fun c => (claimed c).trans (or_congr_right ?_), noted ▸ map_call_runNotes .., fun x hx c => ?_, left⟩
  · obtain ⟨i', port, ⟨cause, h⟩ | ⟨h, held⟩ | ⟨cause, h⟩⟩ := error_of_simulated allocated sound he
    · exact nomatch h
    · obtain ⟨-, rfl⟩ := InstanceError.start.inj h
      exact ⟨port, rfl, held⟩
    · exact nomatch h
  · obtain ⟨i', port, ⟨cause, h⟩ | ⟨h, -⟩ | ⟨cause, h⟩⟩ := error_of_simulated allocated sound he <;>
      exact nomatch h
  · have started : (∃ o ∈ run.report.instances, o.started = true ∧ True ∧ c = (.tcp, o.ports.primary)) ↔ _ :=
      started_of_simulated allocated sound fun _ => True
    simpa only [true_and] using started.symm
  · rw [claimed_of_mem_runNotes allocated (noted ▸ hx),
      started_of_simulated allocated sound x.call.LeavesRunning]

end

/-- One instance that runs on port 2. -/
def blocker : List Pool.Move :=
  [.create "blocker" (instanceOptions ⟨2, 3⟩) false, .start "blocker"].map
    fun op => ⟨⟨[]⟩, .withoutRuntime, op⟩

/-- Beside it, of three instances from port 0 on the first has no port and the second no free one. The third
one runs, and gives its port back by its stop. -/
theorem run_beside_blocker :
    let s : Settings := { Settings.default with instanceCount := 3, basePort := 0 }
    let pairs : List PortPair := [⟨0, 1⟩, ⟨2, 3⟩, ⟨4, 5⟩]
    let others := (Pool.empty.run blocker).registry
    let run := (simulated ⟨[]⟩ .withoutRuntime).run pairs s (fun _ => .late) .together ⟨0, others⟩
    let notes := ((simulated ⟨[]⟩ .withoutRuntime).observed.run pairs s (fun _ => .late) .together
      ⟨⟨0, others⟩, 0, []⟩).world.notes
    s.portPairs = .ok pairs ∧ others.claimed = [(.tcp, 2)] ∧
    run.report.instances.length = 3 ∧
    (∀ o, run.report.instances[0]? = some o →
      o.errors = [.create 0 (.invalidConfig (.portOutOfRange Key.primaryPort 0))]) ∧
    (∀ o, run.report.instances[1]? = some o → o.errors = [.start 1 (.addressInUse 2)]) ∧
    run.steps.getLast? = some (.stop 2 4 (.ok ())) ∧
    (∀ x ∈ notes, x.call = .start 2 (.ok true) → (.tcp, 4) ∈ x.world.registry.claimed) ∧
    (∀ x ∈ notes, x.call = .stop 2 (.ok ()) → (.tcp, 4) ∉ x.world.registry.claimed) ∧
    run.world.registry = others := by
  intro s pairs
  have fits : s.portPairs = .ok pairs := rfl
  have held : (Pool.empty.run blocker).registry.claimed = [(.tcp, 2)] := by decide +kernel
  have beside := run_beside_pool blocker fits ⟨[]⟩ .withoutRuntime (fun _ => .late) .together
  generalize (Pool.empty.run blocker).registry = others at held beside ⊢
  obtain rfl : others = ⟨[(.tcp, 2)]⟩ := congrArg Registry.mk held
  obtain ⟨length, reported, -, -, -, -, during, left⟩ := beside
  refine ⟨fits, held, length, fun o ho => (reported 0 o ho).refused rfl, fun o ho => ?_, rfl,
    fun x hx start => (during x hx _).2 (.inr ?_), fun x hx stop claimed => ?_, left⟩
  · have port : o.ports.primary = 2 := UInt16.toNat_inj.1 (reported 1 o ho).port
    have taken := (reported 1 o ho).taken
    rw [port] at taken
    exact taken (List.mem_singleton_self _)
  · have small := Nat.lt_of_lt_of_eq (by decide : 2 < 3) length.symm
    obtain ⟨o, ho⟩ : ∃ o, _ = some o := ⟨_, List.getElem?_eq_getElem small⟩
    have third := reported 2 o ho
    have port : o.ports.primary = 4 := UInt16.toNat_inj.1 third.port
    have started : o.started = true := third.started.2 ⟨by decide, by simp [port]⟩
    refine ⟨o, List.mem_of_getElem? ho, started, ?_, by rw [port]⟩
    rw [start, third.index]
    exact Nat.le_refl 2
  · rcases (during x hx _).1 claimed with other | ⟨o, ho, -, running, -⟩
    · simp at other
    · obtain ⟨i, hi⟩ := List.mem_iff_getElem?.1 ho
      have small : i < 3 := Nat.lt_of_lt_of_eq (List.getElem?_eq_some_iff.1 hi).1 length
      rw [stop, Call.LeavesRunning, (reported i o hi).index] at running
      exact absurd small (Nat.not_lt_of_le running)

end ServerTrials.Fleet
