import ServerTrials.Proofs.Fleet.Outcomes

/-!
What the summary of a run says.

A report is summed up from the failures that stand in its outcomes, while the other fields of an outcome are
set on their own, in three phases. `InstanceOutcome.Consistent` says which failures belong to which fields.
Every outcome of a run is consistent, whatever its instance and its probe did, so that a report without
failures is one of instances that started, passed their probes and stopped.
-/

namespace ServerTrials.Fleet

/-! ### Fields and failures -/

/-- A failure before the instance of that index runs. -/
inductive BeforeRunning (index : Nat) : InstanceError → Prop
  | create (source : ServiceError) : BeforeRunning index (.create index source)
  | start (source : ServiceError) : BeforeRunning index (.start index source)
  | declined : BeforeRunning index (.startDeclined index)

/-- The failures of probing, given the output: there is one or the other. -/
inductive ProbeFailures (index : Nat) (port : UInt16) : Option String → List InstanceError → Prop
  | passed (stdout : String) : ProbeFailures index port (some stdout) []
  | failed (source : ProbeError) : ProbeFailures index port none [.probe index port source]

/-- The failures of stopping, given whether the instance stopped. -/
inductive StopFailures (index : Nat) : Bool → List InstanceError → Prop
  | stopped : StopFailures index true []
  | failed (source : ServiceError) : StopFailures index false [.stop index source]

namespace InstanceOutcome

/-- The failures of an outcome are those that its other fields tell of: one failure before the instance
runs, and nothing else is set; or those of its probe at the primary port, then those of its stop. -/
inductive Consistent : InstanceOutcome → Prop
  | unstarted {index : Nat} {ports : PortPair} {e : InstanceError} (failed : BeforeRunning index e) :
    Consistent ⟨index, ports, false, none, false, [e]⟩
  | started {index : Nat} {ports : PortPair} {output : Option String} {stopped : Bool}
    {probing stopping : List InstanceError} (probe : ProbeFailures index ports.primary output probing)
    (stop : StopFailures index stopped stopping) :
    Consistent ⟨index, ports, true, output, stopped, probing ++ stopping⟩

theorem consistent_served (index : Nat) (ports : PortPair) (result : Except ProbeError String)
    (stop : Except ServiceError Unit) : (served index ports result stop).Consistent := by
  refine .started ?_ ?_
  · cases result with
    | ok stdout => exact .passed stdout
    | error source => exact .failed source
  · cases stop with
    | ok => exact .stopped
    | error source => exact .failed source

namespace Consistent

variable {o : InstanceOutcome}

/-- Every failure names the instance, and a failed probe its primary port. -/
theorem error_own (h : o.Consistent) {e : InstanceError} (he : e ∈ o.errors) :
    e.index = o.index ∧ ∀ index port source, e = .probe index port source → port = o.ports.primary := by
  cases h with
  | unstarted failed =>
    obtain rfl := List.mem_singleton.1 he
    cases failed <;> exact ⟨rfl, fun _ _ _ same => by contradiction⟩
  | started probe stop =>
    rcases List.mem_append.1 he with probed | halted
    · cases probe with
      | passed => contradiction
      | failed source =>
        obtain rfl := List.mem_singleton.1 probed
        exact ⟨rfl, fun _ _ _ same => (InstanceError.probe.inj same).2.1.symm⟩
    · cases stop with
      | stopped => contradiction
      | failed source =>
        obtain rfl := List.mem_singleton.1 halted
        exact ⟨rfl, fun _ _ _ same => by contradiction⟩

theorem errors_eq_nil_iff (h : o.Consistent) : o.errors = [] ↔
    o.started = true ∧ o.probeOutput.isSome = true ∧ o.stopped = true := by
  cases h with
  | unstarted => simp
  | started probe stop => cases probe <;> cases stop <;> simp

theorem started_of_stopped (h : o.Consistent) (stopped : o.stopped = true) : o.started = true := by
  cases h with
  | unstarted => contradiction
  | started => rfl

end Consistent
end InstanceOutcome

/-! ### Reports -/

namespace FleetReport

variable {r : FleetReport}

theorem isSuccess_iff : r.isSuccess = true ↔ ∀ o ∈ r.instances, o.errors = [] := by
  rw [isSuccess, firstError?, errors, Option.isNone_iff_eq_none, List.head?_eq_none_iff,
    List.flatMap_eq_nil_iff]

/-- The first failure is the first one of the first instance that has any. -/
theorem firstError?_eq_some_iff {e : InstanceError} : r.firstError? = some e ↔
    ∃ before o after, r.instances = before ++ o :: after ∧ o.errors.head? = some e ∧
      ∀ o' ∈ before, o'.errors = [] := by
  simp only [firstError?, errors, List.head?_flatMap, List.findSome?_eq_some_iff, List.head?_eq_none_iff]

theorem result_eq_error_iff {e : InstanceError} : r.result = .error e ↔ r.firstError? = some e := by
  rw [result]
  cases r.firstError? <;> simp

theorem result_eq_ok_iff : r.result = .ok () ↔ r.isSuccess = true := by
  rw [result, isSuccess]
  cases r.firstError? <;> simp

end FleetReport

/-! ### Runs -/

section

variable {ι ω : Type} (f : Factory ι ω) (pairs : List PortPair) (s : Settings) (probe : Prober)
  (rt : Runtime) (w : ω)

/-- There is one outcome for each pair of ports, and it is consistent. -/
theorem outcome_run {k : Nat} {ports : PortPair} (hk : pairs[k]? = some ports) :
    ∃ o, (f.run pairs s probe rt w).report.instances[k]? = some o ∧ o.index = k ∧ o.ports = ports ∧
      o.Consistent := by
  obtain ⟨-, l, w₁, w₂, -, hl, launched⟩ := (launchedFrom_launchAll f pairs 0 w).exists_launch hk
  rw [Nat.zero_add] at launched
  cases launched with
  | refused _ create =>
    exact ⟨_, outcome_run_of_idle hl rfl, rfl, rfl, .unstarted (.create _)⟩
  | declined _ create start =>
    exact ⟨_, outcome_run_of_idle hl rfl, rfl, rfl, .unstarted .declined⟩
  | failed _ create start =>
    exact ⟨_, outcome_run_of_idle hl rfl, rfl, rfl, .unstarted (.start _)⟩
  | runs _ create start =>
    obtain ⟨w', served⟩ := outcome_run_of_running hl (.runs _ create start) rfl
    exact ⟨_, served, rfl, rfl, InstanceOutcome.consistent_served ..⟩

theorem outcome_of_getElem? {k : Nat} {o : InstanceOutcome}
    (ho : (f.run pairs s probe rt w).report.instances[k]? = some o) :
    o.index = k ∧ pairs[k]? = some o.ports ∧ o.Consistent := by
  have lt : k < pairs.length :=
    length_instances_run f pairs s probe rt w ▸ (List.getElem?_eq_some_iff.1 ho).1
  have hk := List.getElem?_eq_getElem lt
  obtain ⟨o', ho', index, ports, consistent⟩ := outcome_run f pairs s probe rt w hk
  obtain rfl := Option.some.inj (ho.symm.trans ho')
  exact ⟨index, ports ▸ hk, consistent⟩

theorem consistent_of_mem_run {o : InstanceOutcome}
    (ho : o ∈ (f.run pairs s probe rt w).report.instances) : o.Consistent := by
  obtain ⟨k, hk⟩ := List.mem_iff_getElem?.1 ho
  exact (outcome_of_getElem? f pairs s probe rt w hk).2.2

end

/-- Summaries mean what they say, whatever the instances and their probes did and in whatever order the
probes went on. Each instance has one outcome, in which failures and fields are consistent, and every failure
names its instance, a failed probe also the primary port. Success is that every instance started, passed its
probe and stopped; the first failure is the earliest one of the first instance with any; and as many probes
come to an end as instances start, of which no more stop. -/
theorem summary_of_run {ι ω : Type} (f : Factory ι ω) (pairs : List PortPair) (s : Settings)
    (probe : Prober) (rt : Runtime) (w : ω) :
    let r := (f.run pairs s probe rt w).report
    r.instances.length = pairs.length ∧
    (∀ (k : Nat) (o : InstanceOutcome), r.instances[k]? = some o →
      o.index = k ∧ pairs[k]? = some o.ports ∧ o.Consistent ∧
        ∀ e ∈ o.errors, e.index = k ∧
          ∀ index port source, e = .probe index port source → port = o.ports.primary) ∧
    (r.isSuccess = true ↔
      ∀ o ∈ r.instances, o.started = true ∧ o.probeOutput.isSome = true ∧ o.stopped = true) ∧
    (∀ e, r.firstError? = some e ↔ ∃ before o after, r.instances = before ++ o :: after ∧
      o.errors.head? = some e ∧ ∀ o' ∈ before, o'.errors = []) ∧
    (∀ e, r.result = .error e ↔ r.firstError? = some e) ∧ (r.result = .ok () ↔ r.isSuccess = true) ∧
    r.probesCompleted = r.started ∧ r.stopped ≤ r.started := by
  have consistent : ∀ o ∈ (f.run pairs s probe rt w).report.instances, o.Consistent := fun _ =>
    consistent_of_mem_run f pairs s probe rt w
  refine ⟨length_instances_run .., fun k o ho => ?_, ?_, fun e => FleetReport.firstError?_eq_some_iff,
    fun e => FleetReport.result_eq_error_iff, FleetReport.result_eq_ok_iff, probesCompleted_run .., ?_⟩
  · obtain ⟨index, ports, whole⟩ := outcome_of_getElem? f pairs s probe rt w ho
    refine ⟨index, ports, whole, fun e he => ?_⟩
    obtain ⟨own, port⟩ := whole.error_own he
    exact ⟨own.trans index, port⟩
  · rw [FleetReport.isSuccess_iff]
    exact forall₂_congr fun o ho => (consistent o ho).errors_eq_nil_iff
  · exact List.countP_mono_left fun o ho => (consistent o ho).started_of_stopped

/-- Instances that are numbered as they are created. The first is refused, the second declines to start, and
the third does not stop. -/
def troubled : Factory Nat Nat where
  create _ n := (if n = 0 then .error .notRunning else .ok n, n + 1)
  start i n := (.ok (i != 1), i, n)
  stop i n := (if i = 2 then .error .notRunning else .ok (), i, n)

/-- Of four of them the third is also cut off by the time limit, so that all but the last have failures. -/
theorem summary_of_troubled :
    let r := (troubled.run [⟨3000, 3001⟩, ⟨3002, 3003⟩, ⟨3004, 3005⟩, ⟨3006, 3007⟩] .default
      (fun p => if p.index = 2 then .late else .passed "ok") .together 0).report
    r.instances[2]? = some ⟨2, ⟨3004, 3005⟩, true, none, false,
      [.probe 2 3004 (.timeout 10000), .stop 2 .notRunning]⟩ ∧
    r.instances[3]? = some ⟨3, ⟨3006, 3007⟩, true, some "ok", true, []⟩ ∧
    r.result = .error (.create 0 .notRunning) ∧ r.isSuccess = false ∧
    r.probesCompleted = 2 ∧ r.started = 2 ∧ r.stopped = 1 := by
  have summary := summary_of_run troubled
    [⟨3000, 3001⟩, ⟨3002, 3003⟩, ⟨3004, 3005⟩, ⟨3006, 3007⟩] .default
    (fun p => if p.index = 2 then .late else .passed "ok") .together 0
  exact ⟨rfl, rfl, (summary.2.2.2.2.1 _).2 rfl, rfl, summary.2.2.2.2.2.2.1, rfl, rfl⟩

end ServerTrials.Fleet
