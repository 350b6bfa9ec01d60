import ServerTrials.Proofs.Fleet.Tasks

/-!
The outcomes of a run, one by one.

Records of probes and stops are entered into the list of all outcomes at the index that they carry. Read at
one index, this is the outcome of the launch with the records of this instance alone, and these do not
depend on the order in which probes go on. So neither does the report.
-/

namespace ServerTrials.Fleet

/-! ### Records at an index -/

section

variable {α : Type} {index : α → Nat} {record : α → InstanceOutcome → InstanceOutcome}

/-- At an index, the records of that index are entered in their order. -/
theorem getElem?_enter (k : Nat) : ∀ (records : List α) (os : List InstanceOutcome),
    (enter index record os records)[k]? =
      os[k]?.map fun o => (records.filter (index · == k)).foldl (fun o a => record a o) o
  | [], os => by simp [enter]
  | a :: records, os => by
    have step : enter index record os (a :: records) =
        enter index record (os.modify (index a) (record a)) records := rfl
    rw [step, getElem?_enter k records, List.getElem?_modify, List.filter_cons]
    by_cases h : index a = k
    · simp [h, Function.comp_def]
    · simp [h]

/-- What no record changes is left as it is. -/
theorem map_enter {β : Type} {part : InstanceOutcome → β} (kept : ∀ a o, part (record a o) = part o) :
    ∀ (records : List α) (os : List InstanceOutcome),
      (enter index record os records).map part = os.map part
  | [], _ => rfl
  | a :: records, os => by
    have first : (os.modify (index a) (record a)).map part = os.map part := by
      refine List.ext_getElem? fun k => ?_
      rw [List.getElem?_map, List.getElem?_map, List.getElem?_modify]
      by_cases h : index a = k
      · simp [h, Function.comp_def, kept]
      · simp [h]
    rw [← first]
    exact map_enter kept records (os.modify (index a) (record a))

end

theorem Completion.started_record (c : Completion) (o : InstanceOutcome) :
    (c.record o).started = o.started := by
  rw [Completion.record]
  split <;> rfl

theorem Halt.started_record (h : Halt) (o : InstanceOutcome) : (h.record o).started = o.started := by
  rw [Halt.record]
  split <;> rfl

namespace InstanceOutcome

/-- The outcome of an instance that was started, then probed and stopped with these answers. -/
def served (index : Nat) (ports : PortPair) (result : Except ProbeError String)
    (stop : Except ServiceError Unit) : InstanceOutcome :=
  let probeErrors := match result with
    | .ok _ => []
    | .error e => [.probe index ports.primary e]
  let stopErrors := match stop with
    | .ok _ => []
    | .error e => [.stop index e]
  ⟨index, ports, true, result.toOption, stop.toBool, probeErrors ++ stopErrors⟩

theorem record_record {h : Halt} {c : Completion} {index : Nat} (hi : h.index = index)
    (ci : c.index = index) (ports : PortPair) :
    h.record (c.record { new index ports with started := true }) =
      served index ports c.result h.answer := by
  obtain ⟨i, result⟩ := c
  obtain ⟨i', port', answer, log⟩ := h
  obtain rfl : i' = index := hi
  obtain rfl : i = i' := ci
  cases result <;> cases answer <;> rfl

end InstanceOutcome

/-! ### Completions of an instance -/

/-- What the probe of a running instance completes. -/
def Running.completion {ι : Type} (r : Running ι) (s : Settings) (probe : Prober) : Completion :=
  ⟨r.index, (probe (r.probing s.probeHost)).result s.probeTimeout⟩

section

variable {ι ω : Type} {f : Factory ι ω} {n : Nat} {pairs : List PortPair} {w w' : ω}
  {ls : List (Launch ι)}

/-- The completions of an instance, whatever the runtime: one if it runs, or none. -/
theorem LaunchedFrom.filter_completions (h : LaunchedFrom f n pairs w ls w') (s : Settings) (probe : Prober)
    (rt : Runtime) (k : Nat) :
    let tasks := rt.tasks s.probeHost (runningOf ls)
    (((rt.course tasks).filterMap Moment.joined?).filterMap
        (Task.completion? tasks probe s.probeTimeout)).filter (·.index == k)
      = ((runningOf ls).filter (·.index == k)).map (·.completion s probe) := by
  intro tasks
  have apart : Apart tasks := h.apart rt s.probeHost
  have own : ∀ m : Moment, m.task ∈ tasks →
      ∀ c ∈ m.joined?.bind (Task.completion? tasks probe s.probeTimeout), c.index = m.task.probing.index := by
    intro m mem c hc
    cases m with
    | begun | ended => exact nomatch hc
    | joined t =>
      have completed : t.completion? tasks probe s.probeTimeout = _ := apart.completion?_eq mem
      rw [Moment.joined?, Option.bind_some, completed] at hc
      obtain rfl := Option.some.inj hc
      rfl
  rw [List.filterMap_filterMap]
  by_cases running : ∃ r ∈ runningOf ls, r.index = k
  · obtain ⟨r, hr, rfl⟩ := running
    obtain ⟨t, ht, task⟩ := exists_task rt s.probeHost hr
    have completed := apart.filter_filterMap_course rt own ht
    rw [task] at completed
    rw [filter_eq_singleton_of_nodup (·.index) h.nodup_running hr]
    refine completed.trans ?_
    simp only [List.filterMap_cons, Moment.joined?, Option.bind_none, Option.bind_some,
      apart.completion?_eq ht, task]
    rfl
  · have absent : ∀ r ∈ runningOf ls, r.index ≠ k := fun r hr e => running ⟨r, hr, e⟩
    have none : (runningOf ls).filter (·.index == k) = [] :=
      List.filter_eq_nil_iff.2 fun r hr e => absent r hr (beq_iff_eq.1 e)
    rw [none, List.map_nil]
    refine filter_filterMap_course_eq_nil own fun t ht => ?_
    obtain ⟨r, hr, e⟩ := exists_running_of_task ht
    rw [e]
    exact absent r hr

/-! ### Tasks handed over -/

/-- Every task is handed over once. -/
theorem Apart.perm_joined {ts : List Task} (h : Apart ts) (rt : Runtime) :
    (((rt.course ts).filterMap Moment.joined?).map (·.number)).Perm (ts.map (·.number)) := by
  refine List.perm_iff_count.2 fun k => ?_
  have joined : (((rt.course ts).filterMap Moment.joined?).map (·.number)).filter (· == k) =
      ((rt.course ts).filter (·.task.number == k)).filterMap (·.joined?.map (·.number)) := by
    rw [List.map_filterMap, List.filter_filterMap, List.filterMap_filter]
    refine List.filterMap_congr fun m _ => ?_
    cases m <;> simp [Moment.joined?, Moment.task, Option.filter]
  rw [List.count_eq_length_filter, joined]
  by_cases spawned : k ∈ ts.map (·.number)
  · obtain ⟨t, ht, rfl⟩ := List.mem_map.1 spawned
    rw [h.filter_course rt ht, List.count_eq_one_of_mem h.numbers spawned]
    rfl
  · have quiet : (rt.course ts).filter (·.task.number == k) = [] :=
      List.filter_eq_nil_iff.2 fun m hm e =>
        spawned (List.mem_map.2 ⟨m.task, task_of_mem_course hm, beq_iff_eq.1 e⟩)
    rw [quiet, List.count_eq_zero_of_not_mem spawned]
    rfl

theorem LaunchedFrom.length_joined (h : LaunchedFrom f n pairs w ls w') (rt : Runtime) (host : String) :
    ((rt.course (rt.tasks host (runningOf ls))).filterMap Moment.joined?).length
      = (runningOf ls).length := by
  have same := ((h.apart rt host).perm_joined rt).length_eq
  rwa [List.length_map, List.length_map, Runtime.tasks, length_spawn, List.length_map] at same

/-- The launches that started are those whose instance runs. -/
theorem LaunchedFrom.length_running (h : LaunchedFrom f n pairs w ls w') :
    (runningOf ls).length = ls.countP (·.outcome.started) := by
  rw [runningOf, List.length_filterMap_eq_countP]
  refine List.countP_congr fun l hl => ?_
  obtain ⟨k, ports, _, _, -, launched⟩ := h.exists_ports_of_mem hl
  rw [launched.started_outcome]
  rfl

end

/-! ### The report -/

section

variable {ι ω : Type} (f : Factory ι ω) (pairs : List PortPair) (s : Settings) (probe : Prober)
  (rt : Runtime) (w : ω)

theorem whileProbing_run : (f.run pairs s probe rt w).whileProbing = (f.launchAll 0 pairs w).2 := rfl

theorem world_run : (f.run pairs s probe rt w).world =
    (f.haltAll (runningOf (f.launchAll 0 pairs w).1) (f.probedWorld pairs s probe rt w)).2 := by
  simp only [Factory.run, world_probeAll]

/-- The outcomes of a run: those of the launches, with the records of probes and stops. -/
theorem instances_run :
    let launches := (f.launchAll 0 pairs w).1
    let tasks := rt.tasks s.probeHost (runningOf launches)
    (f.run pairs s probe rt w).report.instances =
      enter (·.index) Halt.record
        (enter (·.index) Completion.record (launches.map (·.outcome))
          (((rt.course tasks).filterMap Moment.joined?).filterMap
            (Task.completion? tasks probe s.probeTimeout)))
        (f.haltAll (runningOf launches) (f.probedWorld pairs s probe rt w)).1 := by
  have outcomes := (probeAll_eq f (runningOf (f.launchAll 0 pairs w).1) s probe rt
    ((f.launchAll 0 pairs w).1.map (·.outcome)) (f.launchAll 0 pairs w).2).1
  simp only [Factory.run, world_probeAll, outcomes]

/-- The outcome of an instance: that of its launch, with the records of its own probe and stop. -/
theorem getElem?_instances_run (k : Nat) :
    (f.run pairs s probe rt w).report.instances[k]? =
      (f.launchAll 0 pairs w).1[k]?.map fun l =>
        ((f.haltAll (runningOf (f.launchAll 0 pairs w).1) (f.probedWorld pairs s probe rt w)).1.filter
            (·.index == k)).foldl (fun o h => h.record o)
          ((l.running?.toList.map (·.completion s probe)).foldl (fun o c => c.record o) l.outcome) := by
  have launches := launchedFrom_launchAll f pairs 0 w
  rw [instances_run, getElem?_enter, getElem?_enter, launches.filter_completions, List.getElem?_map,
    Option.map_map, Option.map_map]
  refine Option.map_congr fun l hl => ?_
  rw [← launches.filter_running (List.mem_of_getElem? hl), launches.index_at hl]
  rfl

theorem map_started_run : (f.run pairs s probe rt w).report.instances.map (·.started) =
    (f.launchAll 0 pairs w).1.map (·.outcome.started) := by
  rw [instances_run, map_enter Halt.started_record, map_enter Completion.started_record, List.map_map]
  rfl

theorem length_instances_run : (f.run pairs s probe rt w).report.instances.length = pairs.length := by
  have same := congrArg List.length (map_started_run f pairs s probe rt w)
  rwa [List.length_map, List.length_map, (launchedFrom_launchAll f pairs 0 w).length_eq] at same

/-- As many probes come to an end as instances start. -/
theorem probesCompleted_run :
    (f.run pairs s probe rt w).report.probesCompleted = (f.run pairs s probe rt w).report.started := by
  have launches := launchedFrom_launchAll f pairs 0 w
  have completed := (probeAll_eq f (runningOf (f.launchAll 0 pairs w).1) s probe rt
    ((f.launchAll 0 pairs w).1.map (·.outcome)) (f.launchAll 0 pairs w).2).2.1
  calc (f.run pairs s probe rt w).report.probesCompleted
      = (runningOf (f.launchAll 0 pairs w).1).length :=
        completed.trans (launches.length_joined rt s.probeHost)
    _ = ((f.launchAll 0 pairs w).1.map (·.outcome.started)).countP id := by
      rw [launches.length_running, List.countP_map]
      rfl
    _ = (f.run pairs s probe rt w).report.started := by
      rw [← map_started_run, List.countP_map]
      rfl

/-- If probes leave the world as it is, the order in which they go on does not show in the report. -/
theorem report_run (quiet : f.Quiet) (rt' : Runtime) :
    (f.run pairs s probe rt w).report = (f.run pairs s probe rt' w).report := by
  have instances : (f.run pairs s probe rt w).report.instances =
      (f.run pairs s probe rt' w).report.instances :=
    List.ext_getElem? fun k => by
      rw [getElem?_instances_run, getElem?_instances_run, probedWorld_of_quiet quiet,
        probedWorld_of_quiet quiet]
  have completed : (f.run pairs s probe rt w).report.probesCompleted =
      (f.run pairs s probe rt' w).report.probesCompleted := by
    rw [probesCompleted_run, probesCompleted_run, FleetReport.started, FleetReport.started, instances]
  exact congrArg₂ FleetReport.mk instances completed

variable {f pairs s probe rt w}

/-- An instance that does not run is left as its launch was. -/
theorem outcome_run_of_idle {k : Nat} {l : Launch ι} (hl : (f.launchAll 0 pairs w).1[k]? = some l)
    (hr : l.running? = none) :
    (f.run pairs s probe rt w).report.instances[k]? = some l.outcome := by
  have launches := launchedFrom_launchAll f pairs 0 w
  rw [getElem?_instances_run, hl, Option.map_some, hr, launches.filter_halts_at hl hr]
  rfl

/-- An instance that runs is probed, then stopped in some world. -/
theorem outcome_run_of_running {k : Nat} {ports : PortPair} {l : Launch ι} {r : Running ι} {w₁ w₂ : ω}
    (hl : (f.launchAll 0 pairs w).1[k]? = some l) (launched : Launched f (.new k ports) w₁ l w₂)
    (hr : l.running? = some r) :
    ∃ w', (f.run pairs s probe rt w).report.instances[k]? =
      some (.served k ports ((probe ⟨k, s.probeHost, ports.primary⟩).result s.probeTimeout)
        (f.stop r.inst w').1) := by
  have launches := launchedFrom_launchAll f pairs 0 w
  obtain ⟨index, -, started, -⟩ := launched.running?_eq_some hr
  obtain ⟨w', halted⟩ := launches.exists_halt_at hl hr (f.probedWorld pairs s probe rt w)
  have at_port : r.probing s.probeHost = ⟨k, s.probeHost, ports.primary⟩ := launched.probing_eq hr _
  refine ⟨w', ?_⟩
  rw [getElem?_instances_run, hl, Option.map_some, hr, halted, started, ← at_port]
  exact congrArg some (InstanceOutcome.record_record (c := r.completion s probe) index index ports)

end

end ServerTrials.Fleet
