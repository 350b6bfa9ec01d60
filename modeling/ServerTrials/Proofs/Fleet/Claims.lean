import ServerTrials.Fleet.Members
import ServerTrials.Proofs.Fleet.Calls
import ServerTrials.Proofs.Fleet.Ports

/-!
The registry under a fleet of simulated instances that do not listen.

The primary ports of a fleet differ, so whether an instance starts is up to its own port and to what others
held before (`Opened`): launching puts the ports of the instances that started in front of the registry, and
stopping takes just these away again. In between, an instance holds its port after each call that leaves it
running (`Call.LeavesRunning`).
-/

namespace ServerTrials.Fleet

/-- The factory of such a fleet. -/
def simulated (host : Host) (bind : Binder) : Factory Member World := members host false bind fun _ => none

theorem quiet_simulated {host : Host} {bind : Binder} : (simulated host bind).Quiet := quiet_members

/-- The entry of a running instance of the fleet. -/
def Running.claim {ι : Type} (r : Running ι) : Protocol × UInt16 := (.tcp, r.port)

/-- The instance runs on its port. -/
def Running.Serves (r : Running Member) : Prop :=
  ∃ ports : PortPair, r.port = ports.primary ∧
    r.inst = .simulated { Instance.onPorts ports with running := true }

/-- The three ends of a launch over a registry: port zero is refused, a port that is held is taken, and on
any other port the instance runs. -/
inductive Opened (r : Registry) (n : Nat) (ports : PortPair) (l : Launch Member) : Prop
  | refused (zero : ports.primary = 0) (running : l.running? = none)
    (outcome : l.outcome = (InstanceOutcome.new n ports).fail
      (.create n (.invalidConfig (.portOutOfRange Key.primaryPort 0))))
  | taken (pos : ports.primary ≠ 0) (held : (.tcp, ports.primary) ∈ r.claimed)
    (running : l.running? = none)
    (outcome : l.outcome = (InstanceOutcome.new n ports).fail (.start n (.addressInUse ports.primary)))
  | runs (pos : ports.primary ≠ 0) (free : (.tcp, ports.primary) ∉ r.claimed) (run : Running Member)
    (running : l.running? = some run) (serves : run.Serves)

section

variable (host : Host) (bind : Binder) {n : Nat} {ports : PortPair} {w w' : World} {l : Launch Member}

theorem create_simulated (o : OptionMap) (w : World) : (simulated host bind).create o w =
    ((Instance.create o host false).map .simulated, { w with asked := w.asked + 1 }) := rfl

theorem create_of_zero (zero : ports.primary = 0) (w : World) :
    (simulated host bind).create (instanceOptions ports) w =
      (.error (.invalidConfig (.portOutOfRange Key.primaryPort 0)), { w with asked := w.asked + 1 }) := by
  rw [create_simulated, Instance.create_of_zero host zero]
  rfl

theorem create_of_ports (primary : ports.primary ≠ 0) (alternate : ports.alternate ≠ 0)
    (apart : ports.primary ≠ ports.alternate) (w : World) :
    (simulated host bind).create (instanceOptions ports) w =
      (.ok (.simulated (.onPorts ports)), { w with asked := w.asked + 1 }) := by
  rw [create_simulated, Instance.create_of_ports host primary alternate apart]
  rfl

theorem start_of_held (held : (.tcp, ports.primary) ∈ w.registry.claimed) :
    (simulated host bind).start (.simulated (.onPorts ports)) w =
      (.error (.addressInUse ports.primary), .simulated (.onPorts ports), w) := by
  simp only [simulated, members, startMember, Instance.start_of_held bind held]

theorem start_of_free (free : (.tcp, ports.primary) ∉ w.registry.claimed) :
    (simulated host bind).start (.simulated (.onPorts ports)) w =
      (.ok true, .simulated { Instance.onPorts ports with running := true },
        { w with registry := ⟨(.tcp, ports.primary) :: w.registry.claimed⟩ }) := by
  simp only [simulated, members, startMember, Instance.start_of_free bind free]

variable {host bind}

/-- A launch changes the registry by the entry of its instance, if that runs. -/
theorem opened_of_launched (h : Launched (simulated host bind) (.new n ports) w l w')
    (alternate : ports.alternate ≠ 0) (apart : ports.primary ≠ ports.alternate) :
    Opened w.registry n ports l ∧
      w'.registry.claimed = (l.running?.toList.map Running.claim).reverse ++ w.registry.claimed := by
  by_cases zero : ports.primary = 0
  · obtain ⟨outcome, running, rfl⟩ := h.agree (.refused [] (create_of_zero host bind zero w))
    rw [running]
    exact ⟨.refused zero running outcome, rfl⟩
  · have created := create_of_ports host bind zero alternate apart w
    by_cases held : (.tcp, ports.primary) ∈ w.registry.claimed
    · obtain ⟨outcome, running, rfl⟩ := h.agree (.failed [] created (start_of_held host bind held))
      rw [running]
      exact ⟨.taken zero held running outcome, rfl⟩
    · obtain ⟨-, running, rfl⟩ := h.agree (.runs [] created (start_of_free host bind held))
      rw [running]
      exact ⟨.runs zero held _ running ⟨ports, rfl, rfl⟩, rfl⟩

end

/-! ### The loops -/

/-- Other entries in the registry do not matter for the end of a launch. -/
theorem Opened.congr {r r' : Registry} {n : Nat} {ports : PortPair} {l : Launch Member}
    (same : (.tcp, ports.primary) ∈ r.claimed ↔ (.tcp, ports.primary) ∈ r'.claimed)
    (h : Opened r n ports l) : Opened r' n ports l := by
  cases h with
  | refused zero running outcome => exact .refused zero running outcome
  | taken pos held running outcome => exact .taken pos (same.1 held) running outcome
  | runs pos free run running serves => exact .runs pos (mt same.2 free) run running serves

section

variable {host : Host} {bind : Binder} {w w' : World} {s : Settings} {pairs : List PortPair}
  {ls : List (Launch Member)}

/-- Launching puts the entries of the instances that run in front of the registry; how each launch ends is
up to the registry before the first of them. -/
theorem LaunchedFrom.claimed_and_opened {n : Nat} (h : LaunchedFrom (simulated host bind) n pairs w ls w')
    (nodup : (pairs.map (·.primary)).Nodup)
    (valid : ∀ ports ∈ pairs, ports.alternate ≠ 0 ∧ ports.primary ≠ ports.alternate) :
    w'.registry.claimed = ((runningOf ls).map Running.claim).reverse ++ w.registry.claimed ∧
    ∀ k ports l, pairs[k]? = some ports → ls[k]? = some l → Opened w.registry (n + k) ports l := by
  induction h with
  | nil => exact ⟨rfl, fun k ports l hk => by simp at hk⟩
  | @cons n ports pairs w w₁ w' l ls first _ ih =>
    obtain ⟨fresh, nodup⟩ := List.nodup_cons.1 nodup
    obtain ⟨⟨alternate, apart⟩, valid⟩ := List.forall_mem_cons.1 valid
    obtain ⟨opened, claimed⟩ := opened_of_launched first alternate apart
    obtain ⟨rest_claimed, rest⟩ := ih nodup valid
    refine ⟨?_, fun k ports' l' hk hl => ?_⟩
    · rw [runningOf_cons, rest_claimed, claimed, List.map_append, List.reverse_append,
        List.append_assoc]
    · cases k with
      | zero =>
        obtain rfl := Option.some.inj hk
        obtain rfl := Option.some.inj hl
        exact opened
      | succ k =>
        have later := rest k ports' l' hk hl
        rw [Nat.add_assoc, Nat.add_comm 1 k] at later
        -- the first instance holds another port
        refine later.congr ?_
        rw [claimed, List.mem_append, or_iff_right]
        intro mem
        obtain ⟨r, hr, e⟩ := List.mem_map.1 (List.mem_reverse.1 mem)
        have port : r.port = ports.primary := (first.running?_eq_some (Option.mem_toList.1 hr)).2.1
        have same : ports'.primary = ports.primary := (Prod.mk.inj e).2.symm.trans port
        exact fresh (List.mem_map.2 ⟨ports', List.mem_of_getElem? hk, same⟩)

namespace LaunchedFrom

variable (h : LaunchedFrom (simulated host bind) 0 pairs w ls w') (allocated : s.Allocated pairs)
include h allocated

theorem claimed : w'.registry.claimed = ((runningOf ls).map Running.claim).reverse ++ w.registry.claimed :=
  (h.claimed_and_opened allocated.nodup_primary fun _ mem => allocated.alternate_valid mem).1

theorem opened {k : Nat} {ports : PortPair} {l : Launch Member} (hk : pairs[k]? = some ports)
    (hl : ls[k]? = some l) : Opened w.registry k ports l := by
  have opened := (h.claimed_and_opened allocated.nodup_primary fun _ mem =>
    allocated.alternate_valid mem).2 k ports l hk hl
  rwa [Nat.zero_add] at opened

/-- An instance runs on its port of the fleet, which is not zero and which nobody held. -/
theorem exists_opened {r : Running Member} (hr : r ∈ runningOf ls) :
    r.Serves ∧ ∃ ports, pairs[r.index]? = some ports ∧ ports.primary ≠ 0 ∧
      (.tcp, ports.primary) ∉ w.registry.claimed ∧ r.claim = (.tcp, ports.primary) := by
  obtain ⟨l, hl, running⟩ := List.mem_filterMap.1 hr
  obtain ⟨k, hk⟩ := List.mem_iff_getElem?.1 hl
  obtain ⟨ports, w₁, w₂, hports, launched⟩ := h.exists_ports hk
  obtain ⟨index, port, -⟩ := launched.running?_eq_some running
  obtain rfl : r.index = k := index.trans (Nat.zero_add k)
  cases h.opened allocated hports hk with
  | refused _ idle | taken _ _ idle => exact nomatch idle.symm.trans running
  | runs pos free r' running' serves =>
    obtain rfl := Option.some.inj (running'.symm.trans running)
    exact ⟨serves, ports, hports, pos, free, congrArg (Protocol.tcp, ·) port⟩

/-- The instances that run are those whose ports are not zero and not held before. -/
theorem exists_running_iff {P : Nat → Prop} {c : Protocol × UInt16} :
    (∃ r ∈ runningOf ls, P r.index ∧ c = r.claim) ↔ ∃ i ports, pairs[i]? = some ports ∧ P i ∧
      ports.primary ≠ 0 ∧ (.tcp, ports.primary) ∉ w.registry.claimed ∧ c = (.tcp, ports.primary) := by
  constructor
  · rintro ⟨r, hr, holds, rfl⟩
    obtain ⟨-, ports, hports, pos, free, claim⟩ := h.exists_opened allocated hr
    exact ⟨r.index, ports, hports, holds, pos, free, claim⟩
  · rintro ⟨i, ports, hports, holds, pos, free, rfl⟩
    obtain ⟨-, l, w₁, w₂, -, hi, launched⟩ := h.exists_launch hports
    cases h.opened allocated hports hi with
    | refused zero => exact absurd zero pos
    | taken _ held => exact absurd held free
    | runs _ _ r running =>
      obtain ⟨index, port, -⟩ := launched.running?_eq_some running
      obtain rfl : r.index = i := index.trans (Nat.zero_add i)
      exact ⟨r, List.mem_filterMap.2 ⟨l, List.mem_of_getElem? hi, running⟩, holds,
        (congrArg (Protocol.tcp, ·) port).symm⟩

theorem nodup_claims : ((runningOf ls).map Running.claim).Nodup := by
  have ports := allocated.nodup_primary.sublist h.sublist_port
  have claims := ports.map fun a b e => (Prod.mk.inj (e : (Protocol.tcp, a) = (Protocol.tcp, b))).2
  rwa [List.map_map] at claims

end LaunchedFrom

end

/-! ### Stops -/

section

variable {host : Host} {bind : Binder} {r : Running Member} {rs : List (Running Member)}
  {claimed : List (Protocol × UInt16)} {w : World}

/-- A running instance stops, whatever the registry is. -/
theorem stop_of_serves (serves : r.Serves) (w : World) :
    ((simulated host bind).stop r.inst w).1 = .ok () := by
  obtain ⟨ports, -, inst⟩ := serves
  rw [inst]
  rfl

/-- The stop itself takes the entry of the instance away. -/
theorem claimed_stop (serves : r.Serves) (w : World) :
    ((simulated host bind).stop r.inst w).2.2.registry.claimed =
      w.registry.claimed.filter (· ≠ r.claim) := by
  obtain ⟨index, port, inst⟩ := r
  obtain ⟨ports, rfl, rfl⟩ := serves
  have released : ((simulated host bind).stop (.simulated { Instance.onPorts ports with running := true })
      w).2.2.registry = w.registry.release .tcp [ports.primary] := rfl
  rw [released, Registry.claimed_release]
  refine List.filter_congr fun c _ => ?_
  by_cases h : c = (.tcp, ports.primary) <;> simp [Protocol.entries, Running.claim, h]

/-- Giving up an instance that was stopped leaves the registry as it is. -/
theorem registry_halt (serves : r.Serves) (w : World) : ((simulated host bind).halt r w).2.registry =
    ((simulated host bind).stop r.inst w).2.2.registry := by
  obtain ⟨index, port, inst⟩ := r
  obtain ⟨ports, rfl, rfl⟩ := serves
  rfl

/-- The instances run, and their ports stand in the registry in front of what others hold, each port once. -/
structure Holding (rs : List (Running Member)) (claimed : List (Protocol × UInt16)) (w : World) : Prop where
  serves : ∀ r ∈ rs, r.Serves
  nodup : (rs.map Running.claim).Nodup
  apart : ∀ r ∈ rs, r.claim ∉ claimed
  claimed_eq : w.registry.claimed = (rs.map Running.claim).reverse ++ claimed

namespace Holding

theorem mem_claimed_iff (h : Holding rs claimed w) {c : Protocol × UInt16} :
    c ∈ w.registry.claimed ↔ c ∈ claimed ∨ ∃ r ∈ rs, c = r.claim := by
  rw [h.claimed_eq, List.mem_append, List.mem_reverse, List.mem_map, or_comm]
  simp only [eq_comm]

variable (host bind)

/-- The stop of the first instance takes just its port away. -/
theorem stop (h : Holding (r :: rs) claimed w) : ((simulated host bind).stop r.inst w).2.2.registry.claimed =
    (rs.map Running.claim).reverse ++ claimed := by
  have fresh := (List.nodup_cons.1 h.nodup).1
  have away := h.apart r List.mem_cons_self
  have others : ∀ c ∈ (rs.map Running.claim).reverse ++ claimed, c ≠ r.claim := fun c hc e => by
    rcases List.mem_append.1 hc with hc | hc
    · exact fresh (e ▸ List.mem_reverse.1 hc)
    · exact away (e ▸ hc)
  rw [claimed_stop (h.serves r List.mem_cons_self), h.claimed_eq, List.map_cons, List.reverse_cons,
    List.append_assoc, List.filter_append, List.singleton_append, List.filter_cons, if_neg (by simp),
    ← List.filter_append]
  exact List.filter_eq_self.2 fun c hc => decide_eq_true (others c hc)

theorem halt (h : Holding (r :: rs) claimed w) : Holding rs claimed ((simulated host bind).halt r w).2 where
  serves r' hr' := h.serves r' (List.mem_cons_of_mem _ hr')
  nodup := (List.nodup_cons.1 h.nodup).2
  apart r' hr' := h.apart r' (List.mem_cons_of_mem _ hr')
  claimed_eq := by rw [registry_halt (h.serves r List.mem_cons_self), h.stop host bind]

/-- When all are stopped just what others hold is left. -/
theorem claimed_haltAll : ∀ {rs : List (Running Member)} {w : World}, Holding rs claimed w →
    ((simulated host bind).haltAll rs w).2.registry.claimed = claimed
  | [], _, h => h.claimed_eq
  | _ :: _, _, h => (h.halt host bind).claimed_haltAll

end Holding

theorem LaunchedFrom.holding {w' : World} {s : Settings} {pairs : List PortPair} {ls : List (Launch Member)}
    (h : LaunchedFrom (simulated host bind) 0 pairs w ls w') (allocated : s.Allocated pairs) :
    Holding (runningOf ls) w.registry.claimed w' where
  serves r hr := (h.exists_opened allocated hr).1
  nodup := h.nodup_claims allocated
  apart r hr := by
    obtain ⟨-, ports, -, -, free, claim⟩ := h.exists_opened allocated hr
    exact claim ▸ free
  claimed_eq := h.claimed allocated

end

/-! ### After each call -/

/-- After the call the instance of that number runs, if it ever does. -/
def Call.LeavesRunning (index : Nat) : Call → Prop
  | .create i _ _ => index < i
  | .start i _ => index ≤ i
  | .begun _ | .ended _ _ => True
  | .stop i _ => i < index

section

variable {ι ω : Type} {f : Factory ι ω} {n k : Nat} {o : InstanceOutcome} {w : ω} {x : Note ω}

theorem leavesRunning_of_mem_launchNotes (hx : x ∈ f.launchNotes o w) :
    (k < o.index → x.call.LeavesRunning k) ∧ (o.index < k → ¬ x.call.LeavesRunning k) := by
  rcases created : f.create (instanceOptions o.ports) w with ⟨e | i, w₁⟩
  · simp only [Factory.launchNotes, created, List.mem_singleton] at hx
    subst hx
    exact ⟨id, Nat.lt_asymm⟩
  · simp only [Factory.launchNotes, created, List.mem_cons, List.not_mem_nil, or_false] at hx
    rcases hx with rfl | rfl
    · exact ⟨id, Nat.lt_asymm⟩
    · exact ⟨Nat.le_of_lt, Nat.not_le_of_lt⟩

theorem leavesRunning_of_mem_launchAllNotes : ∀ {pairs : List PortPair} {n : Nat} {w : ω},
    x ∈ f.launchAllNotes n pairs w → k < n → x.call.LeavesRunning k
  | ports :: pairs, n, w, hx, lt => by
    rcases List.mem_append.1 hx with hx | hx
    · exact (leavesRunning_of_mem_launchNotes hx).1 lt
    · exact leavesRunning_of_mem_launchAllNotes hx (Nat.lt_succ_of_lt lt)

theorem of_mem_passNotes {probe : Prober} (quiet : f.Quiet) : ∀ {ms : List Moment} {w : ω},
    x ∈ f.passNotes probe ms w → x.world = w ∧ ∀ k, x.call.LeavesRunning k
  | m :: ms, w, hx => by
    rw [Factory.passNotes, quiet probe w m] at hx
    rcases List.mem_append.1 hx with hx | hx
    · obtain ⟨st, step, rfl⟩ := Option.map_eq_some_iff.1 (Option.mem_toList.1 hx)
      cases m with
      | begun | ended => obtain rfl := Option.some.inj step; exact ⟨rfl, fun _ => trivial⟩
      | joined => simp [Moment.step?] at step
    · exact of_mem_passNotes quiet hx

theorem exists_of_mem_haltAllNotes : ∀ {rs : List (Running ι)} {w : ω}, x ∈ f.haltAllNotes rs w →
    ∃ r ∈ rs, (x.call.LeavesRunning k ↔ r.index < k)
  | r :: rs, w, hx => by
    rcases List.mem_cons.1 hx with rfl | hx
    · exact ⟨r, List.mem_cons_self, Iff.rfl⟩
    · obtain ⟨r', hr', call⟩ := exists_of_mem_haltAllNotes hx
      exact ⟨r', List.mem_cons_of_mem _ hr', call⟩

end

section

variable {host : Host} {bind : Binder} {n : Nat} {w : World} {x : Note World} {c : Protocol × UInt16}

/-- Where all instances run, their ports are those of the ones that run. -/
theorem exists_claim_iff {rs : List (Running Member)} (all : ∀ r ∈ rs, x.call.LeavesRunning r.index) :
    (∃ r ∈ rs, c = r.claim) ↔ ∃ r ∈ rs, x.call.LeavesRunning r.index ∧ c = r.claim :=
  exists_congr fun r => and_congr_right fun hr => (and_iff_right (all r hr)).symm

/-- After the calls of a launch, the registry holds what it held before, and the port of an instance that
runs. -/
theorem claimed_of_mem_launchNotes {ports : PortPair} {l : Launch Member} {w' : World}
    (h : Launched (simulated host bind) (.new n ports) w l w') (alternate : ports.alternate ≠ 0)
    (apart : ports.primary ≠ ports.alternate)
    (hx : x ∈ (simulated host bind).launchNotes (.new n ports) w) :
    c ∈ x.world.registry.claimed ↔ c ∈ w.registry.claimed ∨
      ∃ r, l.running? = some r ∧ x.call.LeavesRunning r.index ∧ c = r.claim := by
  by_cases zero : ports.primary = 0
  · have created := create_of_zero host bind zero w
    obtain ⟨-, running, -⟩ := h.agree (.refused [] created)
    rw [launchNotes_of_refused (.new n ports) created, List.mem_singleton] at hx
    rw [hx, running]
    simp
  · have created := create_of_ports host bind zero alternate apart w
    by_cases held : (.tcp, ports.primary) ∈ w.registry.claimed
    · have started := start_of_held (w := { w with asked := w.asked + 1 }) host bind held
      obtain ⟨-, running, -⟩ := h.agree (.failed [] created started)
      rw [launchNotes_of_created (.new n ports) created started, List.mem_pair] at hx
      rw [running]
      rcases hx with rfl | rfl <;> simp
    · have started := start_of_free (w := { w with asked := w.asked + 1 }) host bind held
      obtain ⟨-, running, -⟩ := h.agree (.runs [] created started)
      rw [launchNotes_of_created (.new n ports) created started, List.mem_pair] at hx
      rw [running]
      rcases hx with rfl | rfl
      · simp [Call.LeavesRunning]
      · simp [Call.LeavesRunning, Running.claim, InstanceOutcome.new, or_comm]

/-- While a fleet is launched, the registry holds what it held before, and the ports of the instances that
run. -/
theorem claimed_of_mem_launchAllNotes : ∀ {pairs : List PortPair} {n : Nat} {w : World},
    (∀ ports ∈ pairs, ports.alternate ≠ 0 ∧ ports.primary ≠ ports.alternate) →
    x ∈ (simulated host bind).launchAllNotes n pairs w →
    (c ∈ x.world.registry.claimed ↔ c ∈ w.registry.claimed ∨
      ∃ r ∈ runningOf ((simulated host bind).launchAll n pairs w).1,
        x.call.LeavesRunning r.index ∧ c = r.claim)
  | ports :: pairs, n, w, valid, hx => by
    obtain ⟨⟨alternate, apart⟩, valid⟩ := List.forall_mem_cons.1 valid
    rw [Factory.launchAllNotes, List.mem_append] at hx
    rw [LaunchedFrom.runningOf_launchAll_cons]
    have first := launched_launch (simulated host bind) (.new n ports) w
    have rest := launchedFrom_launchAll (simulated host bind) pairs (n + 1)
      ((simulated host bind).launch (.new n ports) w).2
    generalize (simulated host bind).launch (.new n ports) w = launch at *
    simp only [List.mem_append, Option.mem_toList, or_and_right, exists_or]
    rcases hx with hx | hx
    · -- the later instances do not run yet
      have later : ∀ r ∈ runningOf ((simulated host bind).launchAll (n + 1) pairs launch.2).1,
          ¬ x.call.LeavesRunning r.index := fun r hr =>
        (leavesRunning_of_mem_launchNotes hx).2 (rest.le_index_of_mem_running hr)
      rw [claimed_of_mem_launchNotes first alternate apart hx]
      refine or_congr_right ⟨Or.inl, fun h => h.resolve_right ?_⟩
      rintro ⟨r, hr, runs, -⟩
      exact later r hr runs
    · -- the first instance runs already
      have earlier : ∀ r, launch.1.running? = some r → x.call.LeavesRunning r.index := fun r hr => by
        rw [(first.running?_eq_some hr).1]
        exact leavesRunning_of_mem_launchAllNotes hx (Nat.lt_succ_self n)
      have own : (∃ r ∈ launch.1.running?.toList, r.claim = c) ↔
          ∃ r, launch.1.running? = some r ∧ x.call.LeavesRunning r.index ∧ c = r.claim := by
        refine exists_congr fun r => ?_
        rw [Option.mem_toList]
        refine and_congr_right fun hr => ?_
        rw [and_iff_right (earlier r hr), eq_comm]
      rw [claimed_of_mem_launchAllNotes valid hx, (opened_of_launched first alternate apart).2,
        List.mem_append, List.mem_reverse, List.mem_map, own, or_assoc, or_left_comm]

/-- While a fleet is stopped, it holds what others hold, and the ports of the instances that still run. -/
theorem claimed_of_mem_haltAllNotes {claimed : List (Protocol × UInt16)} :
    ∀ {rs : List (Running Member)} {w : World}, Holding rs claimed w →
    rs.Pairwise (fun a b => a.index < b.index) → x ∈ (simulated host bind).haltAllNotes rs w →
    (c ∈ x.world.registry.claimed ↔ c ∈ claimed ∨
      ∃ r ∈ rs, x.call.LeavesRunning r.index ∧ c = r.claim)
  | r :: rs, w, h, rising, hx => by
    obtain ⟨first, rising⟩ := List.pairwise_cons.1 rising
    -- the first instance was stopped, by this call or before it
    have stopped : ¬ x.call.LeavesRunning r.index := by
      rcases List.mem_cons.1 hx with rfl | hx
      · exact Nat.lt_irrefl _
      · obtain ⟨later, hlater, call⟩ := exists_of_mem_haltAllNotes hx
        exact fun runs => Nat.lt_asymm (first later hlater) (call.1 runs)
    have others : (∃ r' ∈ r :: rs, x.call.LeavesRunning r'.index ∧ c = r'.claim) ↔
        ∃ r' ∈ rs, x.call.LeavesRunning r'.index ∧ c = r'.claim := by
      rw [List.exists_mem_cons_iff, or_iff_right fun own => stopped own.1]
    rw [others]
    rcases List.mem_cons.1 hx with rfl | hx
    · rw [← registry_halt (h.serves r List.mem_cons_self), (h.halt host bind).mem_claimed_iff]
      exact or_congr_right (exists_claim_iff fun r' hr' => first r' hr')
    · exact claimed_of_mem_haltAllNotes (h.halt host bind) rising hx

/-- In a whole run, the registry holds what it held before, and the ports of the instances that run. -/
theorem claimed_of_mem_runNotes {s : Settings} {pairs : List PortPair} (allocated : s.Allocated pairs)
    {probe : Prober} {rt : Runtime} (hx : x ∈ (simulated host bind).runNotes pairs s probe rt w) :
    c ∈ x.world.registry.claimed ↔ c ∈ w.registry.claimed ∨
      ∃ r ∈ runningOf ((simulated host bind).launchAll 0 pairs w).1,
        x.call.LeavesRunning r.index ∧ c = r.claim := by
  have launches := launchedFrom_launchAll (simulated host bind) pairs 0 w
  have holding := launches.holding allocated
  rcases List.mem_append.1 hx with hx | hx
  · rcases List.mem_append.1 hx with hx | hx
    · exact claimed_of_mem_launchAllNotes (fun _ mem => allocated.alternate_valid mem) hx
    · obtain ⟨world, running⟩ := of_mem_passNotes quiet_simulated hx
      rw [world, holding.mem_claimed_iff]
      exact or_congr_right (exists_claim_iff fun r _ => running r.index)
  · rw [probedWorld_of_quiet quiet_simulated] at hx
    exact claimed_of_mem_haltAllNotes holding launches.pairwise_running hx

end

end ServerTrials.Fleet
