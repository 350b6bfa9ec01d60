import ServerTrials.Proofs.Fleet.Outcomes

/-!
Scripted instances in a fleet.

What becomes of a scripted instance is settled by its script, its ports and what its probe counts as. The
others, scripted or not, have no part in it, nor has the order in which probes go on.
-/

namespace ServerTrials.Fleet

/-! ### Set-ups -/

/-- All that a run of members depends on. -/
structure Setup where
  host : Host
  listening : Bool
  bind : Binder
  scripts : Nat → Option Script
  pairs : List PortPair
  settings : Settings
  prober : Prober
  runtime : Runtime
  registry : Registry

namespace Setup

/-- The members of the set-up. -/
def factory (a : Setup) : Factory Member World := members a.host a.listening a.bind a.scripts

/-- The run of the set-up. -/
def run (a : Setup) : Run World :=
  a.factory.run a.pairs a.settings a.prober a.runtime ⟨0, a.registry⟩

/-- What the probe of an instance on these ports counts as. -/
def probeResult (a : Setup) (i : Nat) (ports : PortPair) : Except ProbeError String :=
  (a.prober ⟨i, a.settings.probeHost, ports.primary⟩).result a.settings.probeTimeout

/-- The set-ups give their `i`-th instance the same ports, the same script and the same probe result. -/
structure AgreeAt (a b : Setup) (i : Nat) : Prop where
  ports : a.pairs[i]? = b.pairs[i]?
  script : a.scripts i = b.scripts i
  probe : ∀ ports, a.pairs[i]? = some ports → a.probeResult i ports = b.probeResult i ports

end Setup

/-- What becomes of an instance that follows a script. -/
def Script.outcome (s : Script) (index : Nat) (ports : PortPair) (result : Except ProbeError String) :
    InstanceOutcome :=
  let unknown := InstanceOutcome.new index ports
  match s.create, s.start with
  | .error e, _ => unknown.fail (.create index e)
  | .ok _, .error e => unknown.fail (.start index e)
  | .ok _, .ok false => unknown.fail (.startDeclined index)
  | .ok _, .ok true => .served index ports result s.stop

/-! ### Members are asked for in their order -/

section

variable {host : Host} {listening : Bool} {bind : Binder} {scripts : Nat → Option Script}

theorem asked_create (o : OptionMap) (w : World) :
    ((members host listening bind scripts).create o w).2.asked = w.asked + 1 := by
  simp only [members, createMember]
  cases scripts w.asked <;> rfl

theorem asked_start (m : Member) (w : World) :
    ((members host listening bind scripts).start m w).2.2.asked = w.asked := by
  cases m <;> rfl

theorem asked_drop (m : Member) (w : World) :
    ((members host listening bind scripts).drop m w).asked = w.asked := by
  cases m <;> rfl

theorem asked_of_launched {o : InstanceOutcome} {w w' : World} {l : Launch Member}
    (h : Launched (members host listening bind scripts) o w l w') : w'.asked = w.asked + 1 := by
  have asked (o : OptionMap) {created : Except ServiceError Member} {w₁ : World}
      (create : (members host listening bind scripts).create o w = (created, w₁)) :
      w₁.asked = w.asked + 1 := by
    rw [← asked_create o w, create]
  have kept {i i' : Member} {w₁ w₂ : World} {answer : Except ServiceError Bool}
      (start : (members host listening bind scripts).start i w₁ = (answer, i', w₂)) :
      w₂.asked = w₁.asked := by
    rw [← asked_start i w₁, start]
  cases h with
  | refused _ create => exact asked _ create
  | declined _ create start => exact (asked_drop _ _).trans ((kept start).trans (asked _ create))
  | failed _ create start => exact (asked_drop _ _).trans ((kept start).trans (asked _ create))
  | runs _ create start => exact (kept start).trans (asked _ create)

theorem LaunchedFrom.asked {n : Nat} {pairs : List PortPair} {w w' : World} {ls : List (Launch Member)}
    (h : LaunchedFrom (members host listening bind scripts) n pairs w ls w') :
    w'.asked = w.asked + pairs.length := by
  induction h with
  | nil => rfl
  | cons first _ ih => rw [ih, asked_of_launched first, List.length_cons, Nat.add_right_comm, Nat.add_assoc]

end

/-! ### Outcomes of scripts -/

/-- What becomes of a scripted instance is said by its script. -/
theorem outcome_of_script {a : Setup} {i : Nat} {s : Script} {ports : PortPair}
    (hs : a.scripts i = some s) (hk : a.pairs[i]? = some ports) :
    a.run.report.instances[i]? = some (s.outcome i ports (a.probeResult i ports)) := by
  obtain ⟨_, l, w, w', before, hl, launched⟩ :=
    (launchedFrom_launchAll a.factory a.pairs 0 ⟨0, a.registry⟩).exists_launch hk
  rw [Nat.zero_add] at launched
  -- as many instances were asked for as stand before this one, so it gets the script of its index
  have asked : w.asked = i := by
    have lt := (List.getElem?_eq_some_iff.1 hk).1
    rw [before.asked, List.length_take, Nat.min_eq_left (Nat.le_of_lt lt), Nat.zero_add]
  rw [← asked] at hs
  obtain ⟨create, start, stop⟩ := s
  have created : a.factory.create (instanceOptions ports) w =
      (create.map fun _ => .scripted ⟨create, start, stop⟩, { w with asked := w.asked + 1 }) := by
    simp only [Setup.factory, members, createMember, hs]
  have started (w : World) : a.factory.start (.scripted ⟨create, start, stop⟩) w =
      (start, .scripted ⟨create, start, stop⟩, w) := rfl
  rw [Setup.run]
  cases create with
  | error e =>
    obtain ⟨outcome, idle, -⟩ := launched.agree (.refused [] created)
    rw [outcome_run_of_idle hl idle, outcome]
    rfl
  | ok _ =>
    rcases start with e | (_ | _)
    · obtain ⟨outcome, idle, -⟩ := launched.agree (.failed [] created (started _))
      rw [outcome_run_of_idle hl idle, outcome]
      rfl
    · obtain ⟨outcome, idle, -⟩ := launched.agree (.declined [] created (started _))
      rw [outcome_run_of_idle hl idle, outcome]
      rfl
    · obtain ⟨-, running, -⟩ := launched.agree (.runs [] created (started _))
      obtain ⟨w', served⟩ := outcome_run_of_running hl launched running
      exact served

/-- A scripted instance is on its own: its script says what becomes of it, so that set-ups which agree at
this instance agree on its outcome. The order in which probes go on shows nowhere in the report, in which
as many probes come to an end as instances start. -/
theorem scripted_outcomes (a : Setup) :
    (∀ i s, a.scripts i = some s → a.run.report.instances[i]? =
      a.pairs[i]?.map fun ports => s.outcome i ports (a.probeResult i ports)) ∧
    (∀ b : Setup, ∀ i, (a.scripts i).isSome → a.AgreeAt b i →
      a.run.report.instances[i]? = b.run.report.instances[i]?) ∧
    (∀ rt, { a with runtime := rt }.run.report = a.run.report) ∧
    a.run.report.probesCompleted = a.run.report.started := by
  have settled : ∀ (a : Setup) (i : Nat) (s : Script), a.scripts i = some s →
      a.run.report.instances[i]? =
        a.pairs[i]?.map fun ports => s.outcome i ports (a.probeResult i ports) := fun a i s hs => by
    cases hk : a.pairs[i]? with
    | none =>
      have length := length_instances_run a.factory a.pairs a.settings a.prober a.runtime ⟨0, a.registry⟩
      exact List.getElem?_eq_none (Nat.le_trans (Nat.le_of_eq length) (List.getElem?_eq_none_iff.1 hk))
    | some ports => exact outcome_of_script hs hk
  refine ⟨settled a, fun b i scripted agree => ?_, fun rt => report_run _ _ _ _ _ _ quiet_members _,
    probesCompleted_run ..⟩
  obtain ⟨s, hs⟩ := Option.isSome_iff_exists.1 scripted
  rw [settled a i s hs, settled b i s (agree.script ▸ hs), ← agree.ports]
  exact Option.map_congr fun ports hports => by rw [agree.probe ports hports]

/-- The second of two instances is scripted: it runs, its probe is cut off, and it does not stop. -/
def stubborn : Setup where
  host := ⟨[]⟩
  listening := false
  bind := .withoutRuntime
  scripts n := if n = 1 then some ⟨.ok (), .ok true, .error .notRunning⟩ else none
  pairs := [⟨3000, 3001⟩, ⟨3002, 3003⟩]
  settings := .default
  prober p := if p.index = 1 then .late else .passed "3000 ok"
  runtime := .together
  registry := .empty

/-- The same instance beside one that is not created and before one that breaks off its probe. -/
def stubbornAmongOthers : Setup :=
  { stubborn with
    scripts n := some (if n = 1 then ⟨.ok (), .ok true, .error .notRunning⟩
      else ⟨if n = 0 then .error .notRunning else .ok (), .ok true, .ok ()⟩)
    pairs := [⟨3000, 3001⟩, ⟨3002, 3003⟩, ⟨3004, 3005⟩]
    prober p := if p.index = 1 then .late else .broken "gone" }

theorem stubborn_outcome :
    stubborn.run.report.instances[1]? = some ⟨1, ⟨3002, 3003⟩, true, none, false,
      [.probe 1 3002 (.timeout 10000), .stop 1 .notRunning]⟩ ∧
    stubborn.run.report.instances[1]? = stubbornAmongOthers.run.report.instances[1]? :=
  have outcomes := scripted_outcomes stubborn
  ⟨outcomes.1 1 _ rfl, outcomes.2.1 stubbornAmongOthers 1 rfl ⟨rfl, rfl, fun _ _ => rfl⟩⟩

end ServerTrials.Fleet
