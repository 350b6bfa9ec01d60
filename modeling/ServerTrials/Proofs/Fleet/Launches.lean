import Mathlib.Data.List.Nodup
import ServerTrials.Fleet.Run

/-!
Launching a fleet and stopping it: the two loops over its instances.

`Launched` lists the four ways in which the creation and start of an instance end. Launches are numbered
in their order, so whatever they contribute under their numbers, steps or running instances, is told
apart by these. Stops follow the running instances one by one.
-/

namespace ServerTrials.Fleet

/-! ### Elements of one key -/

theorem filter_eq_singleton_of_nodup {α : Type} (key : α → Nat) {l : List α} (h : (l.map key).Nodup)
    {a : α} (ha : a ∈ l) : l.filter (key · == key a) = [a] := by
  induction l with
  | nil => simp at ha
  | cons b l ih =>
    obtain ⟨fresh, rest⟩ := List.nodup_cons.1 h
    rcases List.mem_cons.1 ha with rfl | ha
    · have none : l.filter (key · == key a) = [] :=
        List.filter_eq_nil_iff.2 fun c hc e => fresh (beq_iff_eq.1 e ▸ List.mem_map_of_mem hc)
      rw [List.filter_cons, if_pos BEq.rfl, none]
    · have other : ¬ (key b == key a) = true := fun e =>
        fresh (beq_iff_eq.1 e ▸ List.mem_map_of_mem ha)
      rw [List.filter_cons, if_neg other, ih rest ha]

/-- If everything contributes elements of its own key only, the elements of a key come from there. -/
theorem filter_key_flatMap {α β : Type} {key : α → Nat} {key' : β → Nat} {g : α → List β} (n : Nat) :
    ∀ {l : List α}, (∀ a ∈ l, ∀ b ∈ g a, key' b = key a) →
    (l.flatMap g).filter (key' · == n) = (l.filter (key · == n)).flatMap g
  | [], _ => rfl
  | a :: l, own => by
    obtain ⟨first, rest⟩ := List.forall_mem_cons.1 own
    rw [List.flatMap_cons, List.filter_append, filter_key_flatMap n rest]
    by_cases h : key a = n
    · have all : (g a).filter (key' · == n) = g a :=
        List.filter_eq_self.2 fun b hb => beq_iff_eq.2 ((first b hb).trans h)
      rw [all, List.filter_cons, if_pos (beq_iff_eq.2 h), List.flatMap_cons]
    · have none : (g a).filter (key' · == n) = [] :=
        List.filter_eq_nil_iff.2 fun b hb e => h ((first b hb).symm.trans (beq_iff_eq.1 e))
      rw [none, List.nil_append, List.filter_cons, if_neg (mt beq_iff_eq.1 h)]

/-! ### The ends of a launch -/

variable {ι ω : Type}

/-- The four ends of a launch, with the calls that lead to them: the instance is not created, declines to
start, fails to start, or runs. One that was created but does not run is given up. -/
inductive Launched (f : Factory ι ω) (o : InstanceOutcome) (w : ω) : Launch ι → ω → Prop
  | refused {e : ServiceError} {w' : ω} (log : List Log.Event)
    (create : f.create (instanceOptions o.ports) w = (.error e, w')) :
    Launched f o w
      ⟨o.fail (.create o.index e), none, [.create o.index o.ports (.error e)], log⟩ w'
  | declined {i i' : ι} {w₁ w₂ : ω} (log : List Log.Event)
    (create : f.create (instanceOptions o.ports) w = (.ok i, w₁))
    (start : f.start i w₁ = (.ok false, i', w₂)) :
    Launched f o w
      ⟨o.fail (.startDeclined o.index), none,
        [.create o.index o.ports (.ok ()), .start o.index o.ports.primary (.ok false)], log⟩
      (f.drop i' w₂)
  | failed {e : ServiceError} {i i' : ι} {w₁ w₂ : ω} (log : List Log.Event)
    (create : f.create (instanceOptions o.ports) w = (.ok i, w₁))
    (start : f.start i w₁ = (.error e, i', w₂)) :
    Launched f o w
      ⟨o.fail (.start o.index e), none,
        [.create o.index o.ports (.ok ()), .start o.index o.ports.primary (.error e)], log⟩
      (f.drop i' w₂)
  | runs {i i' : ι} {w₁ w₂ : ω} (log : List Log.Event)
    (create : f.create (instanceOptions o.ports) w = (.ok i, w₁))
    (start : f.start i w₁ = (.ok true, i', w₂)) :
    Launched f o w
      ⟨{ o with started := true }, some ⟨o.index, o.ports.primary, i'⟩,
        [.create o.index o.ports (.ok ()), .start o.index o.ports.primary (.ok true)], log⟩ w₂

theorem launched_launch (f : Factory ι ω) (o : InstanceOutcome) (w : ω) :
    Launched f o w (f.launch o w).1 (f.launch o w).2 := by
  rcases created : f.create (instanceOptions o.ports) w with ⟨created | i, w₁⟩
  · rw [Factory.launch, created]
    exact .refused _ created
  · rcases started : f.start i w₁ with ⟨answer, i', w₂⟩
    rw [Factory.launch, created]
    simp only [Factory.startCreated, started]
    rcases answer with e | (_ | _)
    · exact .failed _ created started
    · exact .declined _ created started
    · exact .runs _ created started

/-- Launches of the instances on pairs of ports, numbered from `n`, one after another from a world to
the next. -/
inductive LaunchedFrom (f : Factory ι ω) : Nat → List PortPair → ω → List (Launch ι) → ω → Prop
  | nil (n : Nat) (w : ω) : LaunchedFrom f n [] w [] w
  | cons {n : Nat} {ports : PortPair} {pairs : List PortPair} {w w₁ w' : ω} {l : Launch ι}
    {ls : List (Launch ι)} (first : Launched f (.new n ports) w l w₁)
    (rest : LaunchedFrom f (n + 1) pairs w₁ ls w') : LaunchedFrom f n (ports :: pairs) w (l :: ls) w'

theorem launchedFrom_launchAll (f : Factory ι ω) : ∀ (pairs : List PortPair) (n : Nat) (w : ω),
    LaunchedFrom f n pairs w (f.launchAll n pairs w).1 (f.launchAll n pairs w).2
  | [], n, w => .nil n w
  | ports :: pairs, n, w =>
    .cons (launched_launch f (.new n ports) w)
      (launchedFrom_launchAll f pairs (n + 1) (f.launch (.new n ports) w).2)

namespace Launched

variable {f : Factory ι ω} {o : InstanceOutcome} {w w' w₁ : ω} {l l₁ : Launch ι}

/-- What the calls answer settles all of a launch but its log. -/
theorem launch_eq (h : Launched f o w l w') : (f.launch o w).1.outcome = l.outcome ∧
    (f.launch o w).1.running? = l.running? ∧ (f.launch o w).2 = w' := by
  cases h with
  | refused _ create => simp [Factory.launch, create]
  | declined _ create start | failed _ create start | runs _ create start =>
    simp [Factory.launch, Factory.startCreated, create, start]

theorem agree (h : Launched f o w l w') (h₁ : Launched f o w l₁ w₁) :
    l.outcome = l₁.outcome ∧ l.running? = l₁.running? ∧ w' = w₁ := by
  obtain ⟨outcome, running, world⟩ := h.launch_eq
  obtain ⟨outcome₁, running₁, world₁⟩ := h₁.launch_eq
  exact ⟨outcome.symm.trans outcome₁, running.symm.trans running₁, world.symm.trans world₁⟩

theorem index_outcome (h : Launched f o w l w') : l.outcome.index = o.index := by cases h <;> rfl

theorem started_outcome (h : Launched f o w l w') :
    l.outcome.started = (o.started || l.running?.isSome) := by
  cases h <;> simp [InstanceOutcome.fail]

theorem running?_eq_some (h : Launched f o w l w') {r : Running ι} (hr : l.running? = some r) :
    r.index = o.index ∧ r.port = o.ports.primary ∧ l.outcome = { o with started := true } ∧
    l.steps = [.create o.index o.ports (.ok ()), .start o.index o.ports.primary (.ok true)] := by
  cases h with
  | runs => obtain rfl := Option.some.inj hr; exact ⟨rfl, rfl, rfl, rfl⟩
  | refused | declined | failed => simp at hr

theorem probing_eq (h : Launched f o w l w') {r : Running ι} (hr : l.running? = some r) (host : String) :
    r.probing host = ⟨o.index, host, o.ports.primary⟩ := by
  obtain ⟨index, port, -⟩ := h.running?_eq_some hr
  rw [Running.probing, index, port]

end Launched

/-! ### Launches in their order -/

namespace LaunchedFrom

variable {f : Factory ι ω} {n k : Nat} {pairs : List PortPair} {ports : PortPair} {w w' : ω}
  {l : Launch ι} {ls : List (Launch ι)}

theorem length_eq (h : LaunchedFrom f n pairs w ls w') : ls.length = pairs.length := by
  induction h with
  | nil => rfl
  | cons _ _ ih => rw [List.length_cons, List.length_cons, ih]

/-- The launch of an instance, after those of the instances before it. -/
theorem exists_launch (h : LaunchedFrom f n pairs w ls w') (hk : pairs[k]? = some ports) :
    ∃ before l w₁ w₂, LaunchedFrom f n (pairs.take k) w before w₁ ∧ ls[k]? = some l ∧
      Launched f (.new (n + k) ports) w₁ l w₂ := by
  induction h generalizing k with
  | nil => simp at hk
  | cons first _ ih =>
    cases k with
    | zero =>
      obtain rfl := Option.some.inj hk
      exact ⟨[], _, _, _, .nil _ _, rfl, first⟩
    | succ k =>
      obtain ⟨before, l, w₁, w₂, prior, hl, launched⟩ := ih hk
      exact ⟨_ :: before, l, w₁, w₂, .cons first prior, hl, by
        rwa [← Nat.add_assoc, Nat.add_right_comm]⟩

theorem exists_ports (h : LaunchedFrom f n pairs w ls w') (hl : ls[k]? = some l) :
    ∃ ports w₁ w₂, pairs[k]? = some ports ∧ Launched f (.new (n + k) ports) w₁ l w₂ := by
  have lt : k < pairs.length := h.length_eq ▸ (List.getElem?_eq_some_iff.1 hl).1
  have hports := List.getElem?_eq_getElem lt
  obtain ⟨-, l', w₁, w₂, -, hl', launched⟩ := h.exists_launch hports
  obtain rfl := Option.some.inj (hl.symm.trans hl')
  exact ⟨_, w₁, w₂, hports, launched⟩

theorem exists_ports_of_mem (h : LaunchedFrom f n pairs w ls w') (hl : l ∈ ls) :
    ∃ k ports w₁ w₂, pairs[k]? = some ports ∧ Launched f (.new (n + k) ports) w₁ l w₂ := by
  obtain ⟨k, hk⟩ := List.mem_iff_getElem?.1 hl
  exact ⟨k, h.exists_ports hk⟩

theorem index_of_getElem? (h : LaunchedFrom f n pairs w ls w') (hl : ls[k]? = some l) :
    l.outcome.index = n + k := by
  obtain ⟨ports, w₁, w₂, -, launched⟩ := h.exists_ports hl
  exact launched.index_outcome

/-- The numbers rise from launch to launch. -/
theorem pairwise_index (h : LaunchedFrom f n pairs w ls w') :
    ls.Pairwise fun a b => a.outcome.index < b.outcome.index := by
  induction h with
  | nil => exact List.Pairwise.nil
  | cons first rest ih =>
    refine List.pairwise_cons.2 ⟨fun l hl => ?_, ih⟩
    obtain ⟨k, ports, _, _, -, launched⟩ := rest.exists_ports_of_mem hl
    rw [first.index_outcome, launched.index_outcome]
    exact Nat.lt_add_right k (Nat.lt_succ_self _)

theorem nodup_index (h : LaunchedFrom f n pairs w ls w') : (ls.map (·.outcome.index)).Nodup :=
  List.pairwise_map.2 (h.pairwise_index.imp Nat.ne_of_lt)

/-- What launches contribute under the number of one of them is what this one contributes. -/
theorem filter_flatMap {β : Type} {g : Launch ι → List β} {key : β → Nat}
    (h : LaunchedFrom f n pairs w ls w')
    (own : ∀ o w₁ l w₂, Launched f o w₁ l w₂ → ∀ b ∈ g l, key b = o.index) (hl : l ∈ ls) :
    (ls.flatMap g).filter (key · == l.outcome.index) = g l := by
  have mine : ls.filter (·.outcome.index == l.outcome.index) = [l] :=
    filter_eq_singleton_of_nodup (·.outcome.index) h.nodup_index hl
  have contributed : (ls.flatMap g).filter (key · == l.outcome.index) =
      (ls.filter (·.outcome.index == l.outcome.index)).flatMap g :=
    filter_key_flatMap _ fun a ha b hb => by
      obtain ⟨j, ports, w₁, w₂, -, launched⟩ := h.exists_ports_of_mem ha
      rw [launched.index_outcome]
      exact own _ _ _ _ launched b hb
  rw [contributed, mine, List.flatMap_singleton]

/-! ### Running instances -/

/-- Running instances keep the order of their launches. -/
theorem pairwise_running (h : LaunchedFrom f n pairs w ls w') :
    (runningOf ls).Pairwise fun a b => a.index < b.index := by
  rw [runningOf, List.pairwise_filterMap]
  refine h.pairwise_index.imp_of_mem fun {a b} ha hb lt r hr r' hr' => ?_
  obtain ⟨j, ports, _, _, -, launched⟩ := h.exists_ports_of_mem ha
  obtain ⟨j', ports', _, _, -, launched'⟩ := h.exists_ports_of_mem hb
  rw [(launched.running?_eq_some hr).1, (launched'.running?_eq_some hr').1,
    ← launched.index_outcome, ← launched'.index_outcome]
  exact lt

theorem nodup_running (h : LaunchedFrom f n pairs w ls w') : ((runningOf ls).map (·.index)).Nodup :=
  List.pairwise_map.2 (h.pairwise_running.imp Nat.ne_of_lt)

theorem runningOf_cons (l : Launch ι) (ls : List (Launch ι)) :
    runningOf (l :: ls) = l.running?.toList ++ runningOf ls := by
  rw [runningOf, List.filterMap_cons]
  cases l.running? <;> rfl

theorem runningOf_launchAll_cons (f : Factory ι ω) (n : Nat) (ports : PortPair) (pairs : List PortPair)
    (w : ω) : runningOf (f.launchAll n (ports :: pairs) w).1 =
      (f.launch (.new n ports) w).1.running?.toList ++
        runningOf (f.launchAll (n + 1) pairs (f.launch (.new n ports) w).2).1 :=
  runningOf_cons _ _

/-- Instances run on their primary ports, in their order. -/
theorem sublist_port (h : LaunchedFrom f n pairs w ls w') :
    ((runningOf ls).map (·.port)).Sublist (pairs.map (·.primary)) := by
  induction h with
  | nil => exact List.Sublist.slnil
  | @cons n ports pairs w w₁ w' l ls first _ ih =>
    rw [runningOf_cons, List.map_append, List.map_cons]
    cases hr : l.running? with
    | none => exact ih.cons _
    | some r =>
      have port : r.port = ports.primary := (first.running?_eq_some hr).2.1
      rw [Option.toList_some, List.map_singleton, port]
      exact ih.cons_cons _

theorem filter_running (h : LaunchedFrom f n pairs w ls w') (hl : l ∈ ls) :
    (runningOf ls).filter (·.index == l.outcome.index) = l.running?.toList := by
  rw [runningOf, List.filterMap_eq_flatMap_toList]
  refine h.filter_flatMap (fun o w₁ l w₂ launched r hr => ?_) hl
  exact (launched.running?_eq_some (Option.mem_toList.1 hr)).1

theorem mem_running (h : LaunchedFrom f n pairs w ls w') (hl : l ∈ ls) {r : Running ι}
    (hr : l.running? = some r) : r ∈ runningOf ls ∧ r.index = l.outcome.index := by
  have mem : r ∈ (runningOf ls).filter (·.index == l.outcome.index) := by
    rw [h.filter_running hl, hr]
    exact List.mem_singleton_self r
  obtain ⟨hmem, hindex⟩ := List.mem_filter.1 mem
  exact ⟨hmem, beq_iff_eq.1 hindex⟩

theorem index_lt_of_mem_running (h : LaunchedFrom f n pairs w ls w') {r : Running ι}
    (hr : r ∈ runningOf ls) : r.index < n + pairs.length := by
  obtain ⟨l, hl, hr⟩ := List.mem_filterMap.1 hr
  obtain ⟨k, ports, _, _, hports, launched⟩ := h.exists_ports_of_mem hl
  rw [(launched.running?_eq_some hr).1]
  exact Nat.add_lt_add_left (List.getElem?_eq_some_iff.1 hports).1 n

theorem le_index_of_mem_running (h : LaunchedFrom f n pairs w ls w') {r : Running ι}
    (hr : r ∈ runningOf ls) : n ≤ r.index := by
  obtain ⟨l, hl, hr⟩ := List.mem_filterMap.1 hr
  obtain ⟨k, ports, _, _, -, launched⟩ := h.exists_ports_of_mem hl
  rw [(launched.running?_eq_some hr).1]
  exact Nat.le_add_right n k

theorem index_ne_of_not_running (h : LaunchedFrom f n pairs w ls w') (hl : l ∈ ls)
    (hr : l.running? = none) : ∀ r ∈ runningOf ls, r.index ≠ l.outcome.index := fun r hmem e => by
  have mem : r ∈ (runningOf ls).filter (·.index == l.outcome.index) :=
    List.mem_filter.2 ⟨hmem, beq_iff_eq.2 e⟩
  rw [h.filter_running hl, hr] at mem
  simp at mem

end LaunchedFrom

/-! ### Stops -/

theorem map_index_haltAll (f : Factory ι ω) : ∀ (rs : List (Running ι)) (w : ω),
    (f.haltAll rs w).1.map (·.index) = rs.map (·.index)
  | [], _ => rfl
  | r :: rs, w => congrArg _ (map_index_haltAll f rs (f.halt r w).2)

theorem exists_halt_mem (f : Factory ι ω) {r : Running ι} : ∀ {rs : List (Running ι)} (w : ω), r ∈ rs →
    ∃ w', (f.halt r w').1 ∈ (f.haltAll rs w).1
  | r' :: rs, w, hr => by
    rcases List.mem_cons.1 hr with rfl | hr
    · exact ⟨w, List.mem_cons_self⟩
    · obtain ⟨w', hw'⟩ := exists_halt_mem f (f.halt r' w).2 hr
      exact ⟨w', List.mem_cons_of_mem _ hw'⟩

/-- A running instance is stopped once, in some world. -/
theorem exists_halt (f : Factory ι ω) {rs : List (Running ι)} (w : ω)
    (nodup : (rs.map (·.index)).Nodup) {r : Running ι} (hr : r ∈ rs) :
    ∃ w', (f.haltAll rs w).1.filter (·.index == r.index) = [(f.halt r w').1] := by
  obtain ⟨w', mem⟩ := exists_halt_mem f w hr
  rw [← map_index_haltAll f rs w] at nodup
  exact ⟨w', filter_eq_singleton_of_nodup (·.index) nodup mem⟩

theorem filter_halts_eq_nil (f : Factory ι ω) {rs : List (Running ι)} (w : ω) {index : Nat}
    (none : ∀ r ∈ rs, r.index ≠ index) : (f.haltAll rs w).1.filter (·.index == index) = [] := by
  refine List.filter_eq_nil_iff.2 fun h hh e => ?_
  have mem : h.index ∈ rs.map (·.index) := map_index_haltAll f rs w ▸ List.mem_map_of_mem hh
  obtain ⟨r, hr, hi⟩ := List.mem_map.1 mem
  exact none r hr (hi.trans (beq_iff_eq.1 e))

/-! ### One instance of a run -/

namespace LaunchedFrom

variable {f : Factory ι ω} {k : Nat} {pairs : List PortPair} {w w' : ω} {l : Launch ι} {r : Running ι}
  {ls : List (Launch ι)}

theorem index_at (h : LaunchedFrom f 0 pairs w ls w') (hl : ls[k]? = some l) : l.outcome.index = k :=
  (h.index_of_getElem? hl).trans (Nat.zero_add k)

theorem index_ne_at (h : LaunchedFrom f 0 pairs w ls w') (hl : ls[k]? = some l)
    (hr : l.running? = none) : ∀ r ∈ runningOf ls, r.index ≠ k := by
  have absent := h.index_ne_of_not_running (List.mem_of_getElem? hl) hr
  rwa [h.index_at hl] at absent

/-- An instance that does not run is not stopped. -/
theorem filter_halts_at (h : LaunchedFrom f 0 pairs w ls w') (hl : ls[k]? = some l)
    (hr : l.running? = none) (w₁ : ω) :
    (f.haltAll (runningOf ls) w₁).1.filter (·.index == k) = [] :=
  filter_halts_eq_nil f w₁ (h.index_ne_at hl hr)

/-- One that runs is stopped once. -/
theorem exists_halt_at (h : LaunchedFrom f 0 pairs w ls w') (hl : ls[k]? = some l)
    (hr : l.running? = some r) (w₁ : ω) :
    ∃ w₂, (f.haltAll (runningOf ls) w₁).1.filter (·.index == k) = [(f.halt r w₂).1] := by
  obtain ⟨running, index⟩ := h.mem_running (List.mem_of_getElem? hl) hr
  obtain ⟨w₂, halted⟩ := exists_halt f w₁ h.nodup_running running
  rw [index, h.index_at hl] at halted
  exact ⟨w₂, halted⟩

end LaunchedFrom

end ServerTrials.Fleet
