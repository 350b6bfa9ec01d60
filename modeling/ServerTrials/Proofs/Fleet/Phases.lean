import ServerTrials.Proofs.Fleet.Calls
import ServerTrials.Proofs.Fleet.Tasks

/-!
The phases of a run.

The trace of a run is told apart by instances: the steps of one instance are its whole `Life`, in order,
and this is all that the trace has. Between instances, launching comes before probing and probing before
stopping, and launches and stops keep the order of the instances. That the trace tells the truth is said
by a factory that notes its calls (`Factory.observed`).
-/

namespace ServerTrials.Fleet

variable {ι ω : Type}

/-! ### Steps -/

/-- The phases of a run in their order. -/
inductive Phase where
  | launching
  | probing
  | stopping
  deriving DecidableEq, Repr

/-- The place of a phase in the order. -/
def Phase.rank : Phase → Nat
  | .launching => 0
  | .probing => 1
  | .stopping => 2

namespace Step

/-- The instance that a step concerns. -/
def index : Step → Nat
  | .create i _ _ | .start i _ _ | .stop i _ _ => i
  | .begun p | .ended p _ => p.index

/-- The phase to which a step belongs. -/
def phase : Step → Phase
  | .create .. | .start .. => .launching
  | .begun _ | .ended .. => .probing
  | .stop .. => .stopping

/-- Whether a step may stand before another one: phases come in their order, and outside of probing so do
instances. -/
def MayPrecede (a b : Step) : Prop :=
  a.phase.rank < b.phase.rank ∨ a.phase = b.phase ∧ (a.phase = .probing ∨ a.index ≤ b.index)

theorem mayPrecede_of_rank_lt {a b : Step} (h : a.phase.rank < b.phase.rank) : MayPrecede a b := Or.inl h

end Step

/-- The life of an instance in the trace. It is not created, or it is not started, or all of this happens,
each once: it is created and started, probed at its primary port, and stopped when the probe has ended. -/
inductive Life (host : String) (probe : Prober) (index : Nat) (ports : PortPair) : List Step → Prop
  | refused (e : ServiceError) : Life host probe index ports [.create index ports (.error e)]
  | unstarted (answer : Except ServiceError Bool) (h : answer ≠ .ok true) :
    Life host probe index ports
      [.create index ports (.ok ()), .start index ports.primary answer]
  | whole (answer : Except ServiceError Unit) :
    Life host probe index ports
      [.create index ports (.ok ()), .start index ports.primary (.ok true),
        .begun ⟨index, host, ports.primary⟩,
        .ended ⟨index, host, ports.primary⟩ (probe ⟨index, host, ports.primary⟩),
        .stop index ports.primary answer]

/-! ### Order -/

section

variable {f : Factory ι ω} {n : Nat} {pairs : List PortPair} {w w' : ω} {ls : List (Launch ι)}
  {probe : Prober}

theorem phase_of_mem_launch {o : InstanceOutcome} {l : Launch ι} (h : Launched f o w l w') :
    ∀ st ∈ l.steps, st.phase = .launching ∧ st.index = o.index := by
  cases h <;> simp [Step.phase, Step.index]

theorem LaunchedFrom.phase_of_mem (h : LaunchedFrom f n pairs w ls w') {st : Step}
    (hst : st ∈ ls.flatMap (·.steps)) : st.phase = .launching := by
  obtain ⟨l, hl, hst⟩ := List.mem_flatMap.1 hst
  obtain ⟨k, ports, _, _, -, launched⟩ := h.exists_ports_of_mem hl
  exact (phase_of_mem_launch launched st hst).1

theorem LaunchedFrom.pairwise_steps (h : LaunchedFrom f n pairs w ls w') :
    (ls.flatMap (·.steps)).Pairwise Step.MayPrecede := by
  refine List.pairwise_flatMap.2 ⟨fun l hl => ?_, h.pairwise_index.imp_of_mem ?_⟩
  · obtain ⟨k, ports, _, _, -, launched⟩ := h.exists_ports_of_mem hl
    refine List.pairwise_of_forall_mem_list fun a ha b hb => ?_
    obtain ⟨pa, ia⟩ := phase_of_mem_launch launched a ha
    obtain ⟨pb, ib⟩ := phase_of_mem_launch launched b hb
    exact Or.inr ⟨pa.trans pb.symm, Or.inr (Nat.le_of_eq (ia.trans ib.symm))⟩
  · intro l l' hl hl' lt a ha b hb
    obtain ⟨k, ports, _, _, -, launched⟩ := h.exists_ports_of_mem hl
    obtain ⟨k', ports', _, _, -, launched'⟩ := h.exists_ports_of_mem hl'
    obtain ⟨pa, ia⟩ := phase_of_mem_launch launched a ha
    obtain ⟨pb, ib⟩ := phase_of_mem_launch launched' b hb
    rw [launched.index_outcome, launched'.index_outcome, ← ia, ← ib] at lt
    exact Or.inr ⟨pa.trans pb.symm, Or.inr (Nat.le_of_lt lt)⟩

theorem phase_of_step? {m : Moment} {st : Step} (hst : m.step? probe = some st) :
    st.phase = .probing ∧ st.index = m.task.probing.index := by
  cases m with
  | begun | ended => obtain rfl := Option.some.inj hst; exact ⟨rfl, rfl⟩
  | joined => exact nomatch hst

theorem phase_of_mem_moments {ms : List Moment} {st : Step} (hst : st ∈ ms.filterMap (Moment.step? probe)) :
    st.phase = .probing := by
  obtain ⟨m, -, hm⟩ := List.mem_filterMap.1 hst
  exact (phase_of_step? hm).1

theorem pairwise_moments (ms : List Moment) :
    (ms.filterMap (Moment.step? probe)).Pairwise Step.MayPrecede :=
  List.pairwise_of_forall_mem_list fun _ ha _ hb =>
    Or.inr ⟨(phase_of_mem_moments ha).trans (phase_of_mem_moments hb).symm, Or.inl (phase_of_mem_moments ha)⟩

theorem phase_of_mem_halts {hs : List Halt} {st : Step} (hst : st ∈ hs.map Halt.step) :
    st.phase = .stopping := by
  obtain ⟨h, -, rfl⟩ := List.mem_map.1 hst
  rfl

theorem LaunchedFrom.pairwise_halts (h : LaunchedFrom f n pairs w ls w') (w₁ : ω) :
    ((f.haltAll (runningOf ls) w₁).1.map Halt.step).Pairwise Step.MayPrecede := by
  have rising : ((f.haltAll (runningOf ls) w₁).1.map (·.index)).Pairwise (· < ·) := by
    rw [map_index_haltAll]
    exact List.pairwise_map.2 h.pairwise_running
  exact List.pairwise_map.2 ((List.pairwise_map.1 rising).imp fun lt =>
    Or.inr ⟨rfl, Or.inr (Nat.le_of_lt lt)⟩)

end

/-- The steps of a run: those of the launches, then those of the probes, then those of the stops. -/
theorem steps_run (f : Factory ι ω) (pairs : List PortPair) (s : Settings) (probe : Prober) (rt : Runtime)
    (w : ω) :
    let launches := (f.launchAll 0 pairs w).1
    (f.run pairs s probe rt w).steps = launches.flatMap (·.steps)
      ++ (rt.course (rt.tasks s.probeHost (runningOf launches))).filterMap (Moment.step? probe)
      ++ (f.haltAll (runningOf launches) (f.probedWorld pairs s probe rt w)).1.map Halt.step := by
  have steps := (probeAll_eq f (runningOf (f.launchAll 0 pairs w).1) s probe rt
    ((f.launchAll 0 pairs w).1.map (·.outcome)) (f.launchAll 0 pairs w).2).2.2.1
  simp only [Factory.run, world_probeAll, steps]

theorem pairwise_steps_run (f : Factory ι ω) (pairs : List PortPair) (s : Settings) (probe : Prober)
    (rt : Runtime) (w : ω) : (f.run pairs s probe rt w).steps.Pairwise Step.MayPrecede := by
  have launches := launchedFrom_launchAll f pairs 0 w
  rw [steps_run]
  refine List.pairwise_append.2 ⟨List.pairwise_append.2 ⟨launches.pairwise_steps, pairwise_moments _,
    fun a ha b hb => ?_⟩, launches.pairwise_halts _, fun a ha b hb => ?_⟩
  · apply Step.mayPrecede_of_rank_lt
    rw [launches.phase_of_mem ha, phase_of_mem_moments hb]
    decide
  · apply Step.mayPrecede_of_rank_lt
    rw [phase_of_mem_halts hb]
    rcases List.mem_append.1 ha with ha | ha
    · rw [launches.phase_of_mem ha]
      decide
    · rw [phase_of_mem_moments ha]
      decide

/-! ### Lives -/

/-- The steps of the instance that a task probes: it begins and ends once. -/
theorem Apart.filter_steps {ts : List Task} (h : Apart ts) (rt : Runtime) (probe : Prober) {t : Task}
    (ht : t ∈ ts) :
    ((rt.course ts).filterMap (Moment.step? probe)).filter (·.index == t.probing.index)
      = [.begun t.probing, .ended t.probing (probe t.probing)] :=
  h.filter_filterMap_course rt (fun _ _ _ hst => (phase_of_step? hst).2) ht

theorem index_lt_of_mem_run (f : Factory ι ω) (pairs : List PortPair) (s : Settings) (probe : Prober)
    (rt : Runtime) (w : ω) : ∀ st ∈ (f.run pairs s probe rt w).steps, st.index < pairs.length := by
  intro st hst
  have launches := launchedFrom_launchAll f pairs 0 w
  rw [steps_run] at hst
  have bound : ∀ r ∈ runningOf (f.launchAll 0 pairs w).1, r.index < pairs.length := fun r hr =>
    Nat.zero_add pairs.length ▸ launches.index_lt_of_mem_running hr
  rcases List.mem_append.1 hst with hst | hst
  · rcases List.mem_append.1 hst with hst | hst
    · obtain ⟨l, hl, hst⟩ := List.mem_flatMap.1 hst
      obtain ⟨k, ports, _, _, hports, launched⟩ := launches.exists_ports_of_mem hl
      rw [(phase_of_mem_launch launched st hst).2, InstanceOutcome.new, Nat.zero_add]
      exact (List.getElem?_eq_some_iff.1 hports).1
    · obtain ⟨m, hm, hst⟩ := List.mem_filterMap.1 hst
      obtain ⟨r, hr, e⟩ := exists_running_of_task (task_of_mem_course hm)
      rw [(phase_of_step? hst).2, e]
      exact bound r hr
  · obtain ⟨h, hh, rfl⟩ := List.mem_map.1 hst
    have mem : h.index ∈ (runningOf (f.launchAll 0 pairs w).1).map (·.index) := by
      rw [← map_index_haltAll f _ (f.probedWorld pairs s probe rt w)]
      exact List.mem_map_of_mem hh
    obtain ⟨r, hr, e⟩ := List.mem_map.1 mem
    exact lt_of_eq_of_lt e.symm (bound r hr)

theorem filter_map_step (hs : List Halt) (index : Nat) :
    (hs.map Halt.step).filter (·.index == index) = (hs.filter (·.index == index)).map Halt.step :=
  List.filter_map

section

variable {f : Factory ι ω} {pairs : List PortPair} {s : Settings} {probe : Prober} {rt : Runtime} {w : ω}
  {k : Nat} {l : Launch ι}

/-- The steps of an instance: those of its launch, of its task and of its stop. -/
theorem filter_steps_run (hl : (f.launchAll 0 pairs w).1[k]? = some l) :
    (f.run pairs s probe rt w).steps.filter (·.index == k) = l.steps
      ++ ((rt.course (rt.tasks s.probeHost (runningOf (f.launchAll 0 pairs w).1))).filterMap
          (Moment.step? probe)).filter (·.index == k)
      ++ ((f.haltAll (runningOf (f.launchAll 0 pairs w).1) (f.probedWorld pairs s probe rt w)).1.filter
          (·.index == k)).map Halt.step := by
  have launches := launchedFrom_launchAll f pairs 0 w
  have launching := launches.filter_flatMap (fun _ _ _ _ h st hst => (phase_of_mem_launch h st hst).2)
    (List.mem_of_getElem? hl)
  rw [launches.index_at hl] at launching
  rw [steps_run, List.filter_append, List.filter_append, launching, filter_map_step]

/-- An instance that does not run has no steps but those of its launch. -/
theorem steps_run_of_idle (hl : (f.launchAll 0 pairs w).1[k]? = some l) (hr : l.running? = none) :
    (f.run pairs s probe rt w).steps.filter (·.index == k) = l.steps := by
  have launches := launchedFrom_launchAll f pairs 0 w
  have untold : ∀ t ∈ rt.tasks s.probeHost (runningOf (f.launchAll 0 pairs w).1),
      t.probing.index ≠ k := fun t ht => by
    obtain ⟨r, hmem, e⟩ := exists_running_of_task ht
    rw [e]
    exact launches.index_ne_at hl hr r hmem
  rw [filter_steps_run hl, launches.filter_halts_at hl hr,
    filter_filterMap_course_eq_nil (fun _ _ _ hst => (phase_of_step? hst).2) untold, List.append_nil,
    List.map_nil, List.append_nil]

/-- An instance that runs is probed once after its launch, and then stopped once. -/
theorem steps_run_of_running {ports : PortPair} {r : Running ι} {w₁ w₂ : ω}
    (hl : (f.launchAll 0 pairs w).1[k]? = some l) (launched : Launched f (.new k ports) w₁ l w₂)
    (hr : l.running? = some r) :
    ∃ answer, (f.run pairs s probe rt w).steps.filter (·.index == k) = l.steps
      ++ [.begun ⟨k, s.probeHost, ports.primary⟩,
        .ended ⟨k, s.probeHost, ports.primary⟩ (probe ⟨k, s.probeHost, ports.primary⟩)]
      ++ [.stop k ports.primary answer] := by
  have launches := launchedFrom_launchAll f pairs 0 w
  obtain ⟨index, port, -, -⟩ := launched.running?_eq_some hr
  obtain ⟨running, -⟩ := launches.mem_running (List.mem_of_getElem? hl) hr
  obtain ⟨t, ht, task⟩ := exists_task rt s.probeHost running
  rw [launched.probing_eq hr] at task
  have probed := (launches.apart rt s.probeHost).filter_steps rt probe ht
  rw [task] at probed
  obtain ⟨w', halted⟩ := launches.exists_halt_at hl hr (f.probedWorld pairs s probe rt w)
  have stop : (f.halt r w').1.step = .stop k ports.primary (f.halt r w').1.answer :=
    congrArg₂ (Step.stop · · _) index port
  refine ⟨(f.halt r w').1.answer, ?_⟩
  rw [filter_steps_run hl, halted, List.map_singleton, stop]
  exact congrArg (l.steps ++ · ++ _) probed

end

theorem life_run (f : Factory ι ω) {pairs : List PortPair} (s : Settings) (probe : Prober)
    (rt : Runtime) (w : ω) {index : Nat} {ports : PortPair} (hk : pairs[index]? = some ports) :
    Life s.probeHost probe index ports
      ((f.run pairs s probe rt w).steps.filter (·.index == index)) := by
  obtain ⟨-, l, w₁, w₂, -, hl, launched⟩ := (launchedFrom_launchAll f pairs 0 w).exists_launch hk
  rw [Nat.zero_add] at launched
  cases launched with
  | refused =>
    rw [steps_run_of_idle hl rfl]
    exact .refused _
  | declined =>
    rw [steps_run_of_idle hl rfl]
    exact .unstarted (.ok false) (by decide)
  | failed =>
    rw [steps_run_of_idle hl rfl]
    exact .unstarted (.error _) (by simp)
  | runs _ create start =>
    obtain ⟨answer, steps⟩ := steps_run_of_running hl (.runs _ create start) rfl
    rw [steps]
    exact .whole answer

/-! ### The whole run -/

/-- A run is told apart by instances and phases, whatever the answers and endings are and in whatever order
the probes go on. What it tells is what is called; phases come one after another, and within launching and
stopping so do the instances; there is no step but of the instances; and the steps of each are its life. -/
theorem phases_of_run (f : Factory ι ω) (pairs : List PortPair) (s : Settings) (probe : Prober)
    (rt : Runtime) (w : ω) :
    let steps := (f.run pairs s probe rt w).steps
    (f.observed.run pairs s probe rt ⟨w, 0, []⟩).world.calls = steps.map Step.call ∧
    steps.Pairwise Step.MayPrecede ∧
    (∀ st ∈ steps, st.index < pairs.length) ∧
    ∀ index ports, pairs[index]? = some ports →
      Life s.probeHost probe index ports (steps.filter (·.index == index)) :=
  ⟨(congrArg Observed.calls (run_observed f pairs s probe rt w).2.2).trans
      (map_call_runNotes f pairs s probe rt w),
    pairwise_steps_run f pairs s probe rt w, index_lt_of_mem_run f pairs s probe rt w,
    fun _ _ hk => life_run f s probe rt w hk⟩

/-- Instances that are numbered as they are created; all but the second start, and the third does not
stop. -/
def halfHearted : Factory Nat Nat where
  create _ n := (.ok n, n + 1)
  start i n := (.ok (i != 1), i, n)
  stop i n := (if i = 2 then .error .notRunning else .ok (), i, n)

/-- The probes of such instances are all cut off, and the third life ends with a stop that fails. -/
theorem phases_of_halfHearted :
    let run := halfHearted.run [⟨3000, 3001⟩, ⟨3002, 3003⟩, ⟨3004, 3005⟩] .default (fun _ => .late)
      .together 0
    run.steps.filter (·.index == 1)
        = [.create 1 ⟨3002, 3003⟩ (.ok ()), .start 1 3002 (.ok false)] ∧
    run.steps.filter (·.index == 2)
        = [.create 2 ⟨3004, 3005⟩ (.ok ()), .start 2 3004 (.ok true), .begun ⟨2, "localhost", 3004⟩,
          .ended ⟨2, "localhost", 3004⟩ .late, .stop 2 3004 (.error .notRunning)] ∧
    Life "localhost" (fun _ => .late) 2 ⟨3004, 3005⟩ (run.steps.filter (·.index == 2)) ∧
    run.steps.Pairwise Step.MayPrecede :=
  have phases := phases_of_run halfHearted [⟨3000, 3001⟩, ⟨3002, 3003⟩, ⟨3004, 3005⟩] .default
    (fun _ => .late) .together 0
  ⟨rfl, rfl, phases.2.2.2 2 ⟨3004, 3005⟩ rfl, phases.2.1⟩

end ServerTrials.Fleet
