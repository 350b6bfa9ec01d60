import ServerTrials.Fleet.Members
import ServerTrials.Proofs.Fleet.Launches

/-!
Tasks and the instances that they probe.

Tasks go on side by side until none is left. Whatever the runtime lets go on next, each of them has the same
moments: it begins, it ends, and it is handed over. As no two tasks share a number and no two probe the same
instance, the moments of an instance are those of one task. The loop that takes the tasks as they are handed
over goes through all these moments.
-/

namespace ServerTrials.Fleet

/-! ### The moments of a task -/

/-- The task whose moment it is. -/
def Moment.task : Moment → Task
  | .begun t | .ended t | .joined t => t

/-- The task that is handed over. -/
def Moment.joined? : Moment → Option Task
  | .begun _ | .ended _ => none
  | .joined t => some t

namespace Active

theorem task_moment (a : Active) : a.moment.task = a.task := by
  obtain ⟨t, stage⟩ := a
  cases stage <;> rfl

theorem joined?_moment {a : Active} (h : a.stage ≠ .ended) : a.moment.joined? = none := by
  obtain ⟨t, stage⟩ := a
  cases stage with
  | spawned | going => rfl
  | ended => exact absurd rfl h

theorem moment_of_ended {a : Active} (h : a.stage = .ended) : a.moment = .joined a.task := by
  rw [moment, h]

theorem exists_next {a : Active} (h : a.stage ≠ .ended) : ∃ b, a.next? = some b := by
  obtain ⟨t, stage⟩ := a
  cases stage with
  | spawned | going => exact ⟨_, rfl⟩
  | ended => exact absurd rfl h

theorem task_of_next? {a b : Active} (h : a.next? = some b) : b.task = a.task := by
  obtain ⟨t, stage⟩ := a
  cases stage with
  | spawned | going => obtain rfl := Option.some.inj h; rfl
  | ended => exact nomatch h

end Active

section

variable {tasks : List Active} {n : Nat} {a b : Active}

theorem mem_advance_of_ne (ha : a ∈ tasks) (other : a.task.number ≠ n) : a ∈ advance tasks n :=
  List.mem_filterMap.2 ⟨a, ha, if_neg other⟩

theorem mem_advance_of_next? (ha : a ∈ tasks) (own : a.task.number = n) (next : a.next? = some b) :
    b ∈ advance tasks n :=
  List.mem_filterMap.2 ⟨a, ha, (if_pos own).trans next⟩

theorem of_mem_advance (hb : b ∈ advance tasks n) :
    (b ∈ tasks ∧ b.task.number ≠ n) ∨ ∃ a ∈ tasks, a.task.number = n ∧ a.next? = some b := by
  obtain ⟨a, ha, left⟩ := List.mem_filterMap.1 hb
  by_cases own : a.task.number = n
  · rw [if_pos own] at left
    exact .inr ⟨a, ha, own, left⟩
  · rw [if_neg own] at left
    obtain rfl := Option.some.inj left
    exact .inl ⟨ha, own⟩

theorem exists_of_mem_advance (hb : b ∈ advance tasks n) : ∃ a ∈ tasks, b.task = a.task := by
  rcases of_mem_advance hb with ⟨hb, -⟩ | ⟨a, ha, -, next⟩
  · exact ⟨b, hb, rfl⟩
  · exact ⟨a, ha, Active.task_of_next? next⟩

theorem sublist_number_advance (n : Nat) : ∀ tasks : List Active,
    ((advance tasks n).map (·.task.number)).Sublist (tasks.map (·.task.number))
  | [] => .slnil
  | a :: tasks => by
    have others := sublist_number_advance n tasks
    rw [advance, List.filterMap_cons]
    by_cases own : a.task.number = n
    · rw [if_pos own]
      cases next : a.next? with
      | none => exact others.cons _
      | some b =>
        rw [List.map_cons, List.map_cons, Active.task_of_next? next]
        exact others.cons_cons _
    · rw [if_neg own]
      exact others.cons_cons _

end

/-! ### All moments -/

namespace Runtime

/-- The moments of tasks up to the last. -/
def moments (rt : Runtime) (tasks : List Active) : List Moment :=
  if h : tasks = [] then []
  else
    let a := rt.next tasks h
    have := momentsLeft_advance_lt (rt.next_mem tasks h)
    a.moment :: rt.moments (advance tasks a.task.number)
termination_by momentsLeft tasks

variable (rt : Runtime) (tasks : List Active)

/-- Nothing happens but with the tasks. -/
theorem exists_of_mem_moments : ∀ m ∈ rt.moments tasks, ∃ a ∈ tasks, m.task = a.task := by
  fun_induction rt.moments tasks with
  | case1 => simp
  | case2 tasks h a less ih =>
    intro m hm
    rcases List.mem_cons.1 hm with rfl | hm
    · exact ⟨a, rt.next_mem tasks h, a.task_moment⟩
    · obtain ⟨b, hb, same⟩ := ih m hm
      obtain ⟨c, hc, own⟩ := exists_of_mem_advance hb
      exact ⟨c, hc, same.trans own⟩

/-- Of each task there happens just what it has before it. -/
theorem filter_moments (distinct : (tasks.map (·.task.number)).Nodup) : ∀ a ∈ tasks,
    (rt.moments tasks).filter (·.task.number == a.task.number) = a.rest := by
  fun_induction rt.moments tasks with
  | case1 => simp
  | case2 tasks h turn less ih =>
    intro a ha
    have hturn : turn ∈ tasks := rt.next_mem tasks h
    have later := ih (distinct.sublist (sublist_number_advance _ _))
    have only : ∀ b ∈ tasks, b.task.number = turn.task.number → b = turn := fun b hb =>
      List.inj_on_of_nodup_map distinct hb hturn
    by_cases own : a.task.number = turn.task.number
    · obtain rfl := only a ha own
      have first : (turn.moment.task.number == turn.task.number) = true := by
        rw [turn.task_moment, BEq.rfl]
      rw [List.filter_cons, if_pos first, turn.rest_eq]
      refine congrArg _ ?_
      cases left : turn.next? with
      | none =>
        -- after its last moment nothing of the task is left
        refine List.filter_eq_nil_iff.2 fun m hm e => ?_
        obtain ⟨b, hb, same⟩ := rt.exists_of_mem_moments _ m hm
        rcases of_mem_advance hb with ⟨-, other⟩ | ⟨c, hc, number, next⟩
        · exact other (same ▸ beq_iff_eq.1 e)
        · rw [only c hc number, left] at next
          contradiction
      | some b =>
        have rest := later b (mem_advance_of_next? ha rfl left)
        rwa [Active.task_of_next? left] at rest
    · have first : ¬ (turn.moment.task.number == a.task.number) = true := by
        rw [turn.task_moment, beq_iff_eq]
        exact Ne.symm own
      rw [List.filter_cons, if_neg first]
      exact later a (mem_advance_of_ne ha own)

/-! ### Tasks handed over -/

theorem joinNext?_eq_none_iff : rt.joinNext? tasks = none ↔ tasks = [] := by
  fun_induction rt.joinNext? tasks with
  | case1 => simp
  | case2 tasks h a less left ended => simp [h]
  | case3 tasks h a less left going ih =>
    obtain ⟨b, next⟩ := Active.exists_next going
    have mem : b ∈ left := mem_advance_of_next? (rt.next_mem tasks h) rfl next
    rw [Option.map_eq_none_iff, ih]
    exact iff_of_false (List.ne_nil_of_mem mem) h

/-- Until a task is handed over no other one is; then come the moments of those that are left. -/
theorem moments_of_joinNext? : ∀ j, rt.joinNext? tasks = some j →
    rt.moments tasks = j.meanwhile ++ .joined j.task :: rt.moments j.left ∧
      j.meanwhile.filterMap Moment.joined? = [] := by
  fun_induction rt.joinNext? tasks with
  | case1 => simp
  | case2 tasks h a less left ended =>
    intro j found
    obtain rfl := Option.some.inj found
    rw [moments, dif_neg h]
    exact ⟨congrArg (· :: _) (Active.moment_of_ended ended), rfl⟩
  | case3 tasks h a less left going ih =>
    intro j found
    obtain ⟨later, waited, rfl⟩ := Option.map_eq_some_iff.1 found
    obtain ⟨moments_eq, none⟩ := ih later waited
    rw [moments, dif_neg h]
    refine ⟨congrArg (a.moment :: ·) moments_eq, ?_⟩
    rw [Joined.after, List.filterMap_cons, Active.joined?_moment going, none]

end Runtime

/-! ### Spawned tasks -/

theorem map_probing_spawn (rt : Runtime) (ps : List Probing) :
    (rt.spawn ps).map (·.probing) = ps :=
  List.ext_getElem (by simp [Runtime.spawn]) fun i h₁ h₂ => by simp [Runtime.spawn]

theorem length_spawn (rt : Runtime) (ps : List Probing) : (rt.spawn ps).length = ps.length :=
  List.length_mapIdx

theorem map_number_spawn (rt : Runtime) (ps : List Probing) :
    (rt.spawn ps).map (·.number) = (List.range ps.length).map rt.number :=
  List.ext_getElem (by simp [Runtime.spawn]) fun i h₁ h₂ => by simp [Runtime.spawn]

theorem nodup_number_spawn (rt : Runtime) (ps : List Probing) :
    ((rt.spawn ps).map (·.number)).Nodup := by
  rw [map_number_spawn]
  exact List.nodup_range.map fun m n => rt.number_inj m n

theorem nodup_index_spawn (rt : Runtime) {ps : List Probing} (h : (ps.map (·.index)).Nodup) :
    ((rt.spawn ps).map (·.probing.index)).Nodup := by
  rw [← map_probing_spawn rt ps, List.map_map] at h
  exact h

/-- The tasks can be told apart by their numbers, and by the instances that they probe. -/
structure Apart (ts : List Task) : Prop where
  numbers : (ts.map (·.number)).Nodup
  indices : (ts.map (·.probing.index)).Nodup

theorem apart_spawn (rt : Runtime) {ps : List Probing} (h : (ps.map (·.index)).Nodup) :
    Apart (rt.spawn ps) :=
  ⟨nodup_number_spawn rt ps, nodup_index_spawn rt h⟩

/-- The moments of spawned tasks. -/
def Runtime.course (rt : Runtime) (ts : List Task) : List Moment := rt.moments (ts.map Task.spawned)

theorem task_of_mem_course {rt : Runtime} {ts : List Task} {m : Moment} (hm : m ∈ rt.course ts) :
    m.task ∈ ts := by
  obtain ⟨a, ha, same⟩ := rt.exists_of_mem_moments _ m hm
  obtain ⟨t, ht, rfl⟩ := List.mem_map.1 ha
  exact same ▸ ht

/-! ### The moments of one instance -/

namespace Apart

variable {rt : Runtime} {ts : List Task} {t t' : Task} {probe : Prober} {limit : Nat}

theorem task?_number (h : Apart ts) (ht : t ∈ ts) : task? ts t.number = some t := by
  rw [task?, ← List.head?_filter, filter_eq_singleton_of_nodup (·.number) h.numbers ht]
  rfl

theorem completion?_eq (h : Apart ts) (ht : t ∈ ts) :
    t.completion? ts probe limit = some ⟨t.probing.index, (probe t.probing).result limit⟩ := by
  rw [Task.completion?, h.task?_number ht, Option.map_some]

/-- Each task begins once, then ends once, and then is handed over once. -/
theorem filter_course (h : Apart ts) (rt : Runtime) (ht : t ∈ ts) :
    (rt.course ts).filter (·.task.number == t.number) = [.begun t, .ended t, .joined t] := by
  refine rt.filter_moments (ts.map Task.spawned) ?_ t.spawned (List.mem_map_of_mem ht)
  rw [List.map_map]
  exact h.numbers

/-- What the moments give for the instance of a task is what the moments of this task give. -/
theorem filter_filterMap_course {β : Type} {g : Moment → Option β} {key : β → Nat} (h : Apart ts)
    (rt : Runtime) (own : ∀ m, m.task ∈ ts → ∀ b ∈ g m, key b = m.task.probing.index) (ht : t ∈ ts) :
    ((rt.course ts).filterMap g).filter (key · == t.probing.index)
      = [.begun t, .ended t, .joined t].filterMap g := by
  rw [← h.filter_course rt ht, List.filter_filterMap, List.filterMap_filter]
  refine List.filterMap_congr fun m hm => ?_
  have mem := task_of_mem_course hm
  cases hg : g m with
  | none => simp
  | some b =>
    have same : key b = t.probing.index ↔ m.task.number = t.number := by
      rw [own m mem b hg]
      exact ⟨fun e => by rw [List.inj_on_of_nodup_map h.indices mem ht e],
        fun e => by rw [List.inj_on_of_nodup_map h.numbers mem ht e]⟩
    by_cases e : m.task.number = t.number
    · simp [e, same.2 e]
    · simp [e, mt same.1 e]

end Apart

/-- For an instance without a task the moments give nothing. -/
theorem filter_filterMap_course_eq_nil {β : Type} {g : Moment → Option β} {key : β → Nat} {index : Nat}
    {rt : Runtime} {ts : List Task} (own : ∀ m, m.task ∈ ts → ∀ b ∈ g m, key b = m.task.probing.index)
    (none : ∀ t ∈ ts, t.probing.index ≠ index) :
    ((rt.course ts).filterMap g).filter (key · == index) = [] := by
  refine List.filter_eq_nil_iff.2 fun b hb e => ?_
  obtain ⟨m, hm, hg⟩ := List.mem_filterMap.1 hb
  have mem := task_of_mem_course hm
  exact none m.task mem ((own m mem b hg).symm.trans (beq_iff_eq.1 e))

/-! ### The loop -/

section

variable {ι ω : Type} (f : Factory ι ω)

/-- Taking the tasks as they are handed over goes through all moments. Each task that is handed over is
entered, and each of the other moments is in the trace and passes on to the world. -/
theorem joinAll_eq (spawned : List Task) (probe : Prober) (limit : Nat) (rt : Runtime)
    (tasks : List Active) (os : List InstanceOutcome) (w : ω) :
    let probed := f.joinAll spawned probe limit rt tasks os w
    let joined := (rt.moments tasks).filterMap Moment.joined?
    probed.outcomes =
        enter (·.index) Completion.record os (joined.filterMap (Task.completion? spawned probe limit)) ∧
      probed.completed = joined.length ∧
      probed.steps = (rt.moments tasks).filterMap (Moment.step? probe) ∧
      probed.world = (rt.moments tasks).foldl (f.pass probe) w := by
  fun_induction f.joinAll spawned probe limit rt tasks os w with
  | case1 tasks os w found =>
    rw [(rt.joinNext?_eq_none_iff tasks).1 found, Runtime.moments, dif_pos rfl]
    exact ⟨rfl, rfl, rfl, rfl⟩
  | case2 tasks os w j found less completions rest ih =>
    obtain ⟨moments_eq, none⟩ := rt.moments_of_joinNext? tasks j found
    obtain ⟨outcomes, completed, steps, world⟩ := ih
    have joined_eq : (rt.moments tasks).filterMap Moment.joined? =
        j.task :: (rt.moments j.left).filterMap Moment.joined? := by
      rw [moments_eq, List.filterMap_append, none]
      rfl
    have completions_eq : ((rt.moments tasks).filterMap Moment.joined?).filterMap
        (Task.completion? spawned probe limit) = completions ++
          ((rt.moments j.left).filterMap Moment.joined?).filterMap (Task.completion? spawned probe limit) := by
      rw [joined_eq, List.filterMap_eq_flatMap_toList, List.flatMap_cons,
        ← List.filterMap_eq_flatMap_toList]
    refine ⟨?_, ?_, ?_, ?_⟩
    · rw [completions_eq, enter, List.foldl_append]
      exact outcomes
    · rw [joined_eq, List.length_cons]
      exact congrArg (· + 1) completed
    · rw [moments_eq, List.filterMap_append, List.filterMap_cons]
      exact congrArg (_ ++ ·) steps
    · rw [moments_eq, List.foldl_append, List.foldl_cons]
      exact world

/-- Probing running instances goes through the whole course of their tasks. -/
theorem probeAll_eq (rs : List (Running ι)) (s : Settings) (probe : Prober) (rt : Runtime)
    (os : List InstanceOutcome) (w : ω) :
    let probed := f.probeAll rs s probe rt os w
    let tasks := rt.tasks s.probeHost rs
    let joined := (rt.course tasks).filterMap Moment.joined?
    probed.outcomes = enter (·.index) Completion.record os
        (joined.filterMap (Task.completion? tasks probe s.probeTimeout)) ∧
      probed.completed = joined.length ∧
      probed.steps = (rt.course tasks).filterMap (Moment.step? probe) ∧
      probed.world = (rt.course tasks).foldl (f.pass probe) w :=
  joinAll_eq f _ probe s.probeTimeout rt _ os w

/-- The world of a run after the last probe. -/
def Factory.probedWorld (pairs : List PortPair) (s : Settings) (probe : Prober) (rt : Runtime) (w : ω) : ω :=
  let (launches, launched) := f.launchAll 0 pairs w
  (rt.course (rt.tasks s.probeHost (runningOf launches))).foldl (f.pass probe) launched

theorem world_probeAll (pairs : List PortPair) (s : Settings) (probe : Prober) (rt : Runtime)
    (os : List InstanceOutcome) (w : ω) :
    (f.probeAll (runningOf (f.launchAll 0 pairs w).1) s probe rt os (f.launchAll 0 pairs w).2).world =
      f.probedWorld pairs s probe rt w :=
  (probeAll_eq f _ s probe rt os _).2.2.2

/-- Probes that begin and end leave the world as it is. -/
def Factory.Quiet : Prop := ∀ probe w m, f.pass probe w m = w

variable {f}

theorem foldl_pass_of_quiet (quiet : f.Quiet) (probe : Prober) (w : ω) : ∀ ms : List Moment,
    ms.foldl (f.pass probe) w = w
  | [] => rfl
  | m :: ms => by rw [List.foldl_cons, quiet, foldl_pass_of_quiet quiet probe w ms]

theorem probedWorld_of_quiet (quiet : f.Quiet) (pairs : List PortPair) (s : Settings) (probe : Prober)
    (rt : Runtime) (w : ω) : f.probedWorld pairs s probe rt w = (f.launchAll 0 pairs w).2 :=
  foldl_pass_of_quiet quiet probe _ _

end

theorem quiet_members {host : Host} {listening : Bool} {bind : Binder} {scripts : Nat → Option Script} :
    (members host listening bind scripts).Quiet := fun _ _ m => by cases m <;> rfl

/-! ### Tasks of running instances -/

section

variable {ι : Type} {rt : Runtime} {host : String} {rs : List (Running ι)}

theorem LaunchedFrom.apart {ω : Type} {f : Factory ι ω} {n : Nat} {pairs : List PortPair} {w w' : ω}
    {ls : List (Launch ι)} (h : LaunchedFrom f n pairs w ls w') (rt : Runtime) (host : String) :
    Apart (rt.tasks host (runningOf ls)) := by
  refine apart_spawn rt ?_
  rw [List.map_map]
  exact h.nodup_running

theorem exists_task (rt : Runtime) (host : String) {r : Running ι} (hr : r ∈ rs) :
    ∃ t ∈ rt.tasks host rs, t.probing = r.probing host := by
  have mem : r.probing host ∈ (rt.tasks host rs).map (·.probing) := by
    rw [Runtime.tasks, map_probing_spawn]
    exact List.mem_map_of_mem hr
  obtain ⟨t, ht, e⟩ := List.mem_map.1 mem
  exact ⟨t, ht, e⟩

theorem exists_running_of_task {t : Task} (ht : t ∈ rt.tasks host rs) :
    ∃ r ∈ rs, t.probing = r.probing host := by
  have mem : t.probing ∈ (rt.tasks host rs).map (·.probing) := List.mem_map_of_mem ht
  rw [Runtime.tasks, map_probing_spawn] at mem
  obtain ⟨r, hr, e⟩ := List.mem_map.1 mem
  exact ⟨r, hr, e.symm⟩

end

end ServerTrials.Fleet
