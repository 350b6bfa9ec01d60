import ServerTrials.Proofs.Server.Pool

/-!
What a start does to a pool.

The registry does not say who holds an entry. In a pool that comes about by moves it need not: a stopped
instance has no entries, so an entry that stands in its way is that of another running instance. Hence a
start is decided by what the others hold, and either it claims all the ports or it leaves the pool as it
was, also if the sockets cannot be bound after the claim.
-/

namespace ServerTrials

namespace Pool

variable {p : Pool} {name : String} {i i' : Instance} {r r' : Registry} {host : Host} {bind : Binder}

/-! ### An instance in its place -/

/-- Putting an instance in its place keeps every name where it is. -/
theorem name_replaced (e : String × Instance) :
    (if e.1 = name then (name, i) else e).1 = e.1 := by
  by_cases h : e.1 = name
  · rw [if_pos h, h]
  · rw [if_neg h]

theorem find?_set (h : p.find? name = some i) : (p.set name i' r).find? name = some i' := by
  obtain ⟨e, he, -⟩ := Option.map_eq_some_iff.1 h
  have hname : e.1 = name := by simpa using List.find?_some he
  have same : ((·.1 == name) ∘ fun e => if e.1 = name then (name, i') else e) = (·.1 == name) :=
    funext fun e => congrArg (· == name) (name_replaced e)
  rw [find?, set, List.find?_map, same, he, Option.map_some, if_pos hname]
  rfl

theorem others_set : (p.set name i r).others name = p.others name := by
  have same : ((·.1 != name) ∘ fun e => if e.1 = name then (name, i) else e) = (·.1 != name) :=
    funext fun e => congrArg (· != name) (name_replaced e)
  rw [others, others, set, List.filter_map, same]
  refine (List.map_congr_left fun e he => if_neg ?_).trans (List.map_id _)
  exact bne_iff_ne.1 (List.mem_filter.1 he).2

theorem set_set : (p.set name i r).set name i' r' = p.set name i' r' := by
  rw [set, set, set, List.map_map]
  refine congrArg (Pool.mk r') (List.map_congr_left fun e _ => ?_)
  by_cases h : e.1 = name
  · rw [Function.comp_apply, if_pos h, if_pos rfl, if_pos h]
  · rw [Function.comp_apply, if_neg h, if_neg h]

theorem step_start (h : p.find? name = some i) : p.step host bind (.start name)
    = (.started (i.start bind p.registry).1,
        p.set name (i.start bind p.registry).2.1 (i.start bind p.registry).2.2) := by
  rw [step, h]

theorem step_stop (h : p.find? name = some i) : p.step host bind (.stop name)
    = (.stopped (i.stop p.registry).1,
        p.set name (i.stop p.registry).2.1 (i.stop p.registry).2.2) := by
  rw [step, h]

/-! ### What stands in the way of a start -/

/-- An instance under another name runs, has that protocol and holds the port. -/
def Taken (p : Pool) (name : String) (protocol : Protocol) (port : UInt16) : Prop :=
  ∃ e ∈ p.instances, e.1 ≠ name ∧ e.2.running = true ∧ e.2.config.protocol = protocol ∧
    port ∈ e.2.ports

/-- `q` is `p` with the instance running: its entries are new and are claimed, and nothing else has
changed. -/
structure Started (p : Pool) (name : String) (i : Instance) (q : Pool) : Prop where
  fresh : i.claims.Disjoint p.registry.claimed
  claimed : q.registry.claimed.Perm (i.claims ++ p.registry.claimed)
  running : q.find? name = some { i with running := true }
  others : q.others name = p.others name

instance (p : Pool) (name : String) (protocol : Protocol) (port : UInt16) :
    Decidable (p.Taken name protocol port) :=
  inferInstanceAs (Decidable (∃ e ∈ p.instances, _))

namespace Consistent

/-- What is claimed while an instance is stopped is what the others hold. -/
theorem mem_claimed_iff_taken (h : p.Consistent) (hi : p.find? name = some i)
    (stopped : i.running = false) {protocol : Protocol} {port : UInt16} :
    (protocol, port) ∈ p.registry.claimed ↔ p.Taken name protocol port := by
  -- without the instance the pool has the same registry, and there the others hold all of it
  rw [← registry_drop_of_stopped hi stopped, (h.drop name).mem_claimed_iff, instances_drop]
  simp only [mem_others, and_assoc, Instance.claims, Protocol.mem_entries, Taken, eq_comm]

theorem free_iff (h : p.Consistent) (hi : p.find? name = some i)
    (stopped : i.running = false) {protocol : Protocol} {ports : List UInt16} :
    p.registry.Free protocol ports ↔ ∀ port ∈ ports, ¬ p.Taken name protocol port :=
  forall₂_congr fun _ _ => not_congr (h.mem_claimed_iff_taken hi stopped)

/-- With its ports free, an instance that need not listen starts. -/
theorem started_of_free (h : p.Consistent) (hi : p.find? name = some i)
    (stopped : i.running = false) (quiet : i.listening = false)
    (free : p.registry.Free i.config.protocol i.ports) :
    (p.step host bind (.start name)).1 = .started (.ok true) ∧
      p.Started name i (p.step host bind (.start name)).2 := by
  have granted := Registry.claim_of_free free
  have claimed := Registry.claimed_of_claim (h.sound_of_find? hi).1 granted
  rw [step_start hi, Instance.start_of_granted stopped quiet granted]
  refine ⟨rfl, fun c hc hmem => ?_, ?_, find?_set hi, others_set⟩
  · obtain ⟨hprotocol, hport⟩ := Protocol.mem_entries.1 hc
    exact free c.2 hport (hprotocol ▸ hmem)
  · dsimp only [Pool.set]
    rw [claimed]
    exact (List.reverse_perm _).append_right _

/-- Either no port is taken, and an instance that need not listen starts; or the first one that is taken
is named, and nothing changes. -/
theorem start_decided (h : p.Consistent) (hi : p.find? name = some i)
    (stopped : i.running = false) (quiet : i.listening = false) (host : Host) (bind : Binder) :
    ((∀ port ∈ i.ports, ¬ p.Taken name i.config.protocol port) ∧
      (p.step host bind (.start name)).1 = .started (.ok true) ∧
      p.Started name i (p.step host bind (.start name)).2) ∨
    ∃ before port after, i.ports = before ++ port :: after ∧
      (∀ q ∈ before, ¬ p.Taken name i.config.protocol q) ∧ p.Taken name i.config.protocol port ∧
      p.step host bind (.start name) = (.started (.error (.addressInUse port)), p) := by
  rcases p.registry.free_or_refused i.config.protocol i.ports with
    free | ⟨before, port, after, split, free, claimed, refused⟩
  · exact Or.inl ⟨(h.free_iff hi stopped).1 free, h.started_of_free hi stopped quiet free⟩
  · refine Or.inr ⟨before, port, after, split, (h.free_iff hi stopped).1 free,
      (h.mem_claimed_iff_taken hi stopped).1 claimed, ?_⟩
    rw [step_start hi, Instance.start_of_refused stopped refused, h.set_self hi]

/-! ### Failures and returns -/

/-- All that a start can do to a pool: nothing, or the ports are claimed and the instance runs. -/
theorem start_cases (h : p.Consistent) (name : String) (host : Host) (bind : Binder) :
    p.step host bind (.start name) = (.unknown, p) ∨
    (∃ e, p.step host bind (.start name) = (.started (.error e), p)) ∨
    ∃ i r, p.find? name = some i ∧ i.running = false ∧
      p.registry.claim i.config.protocol i.ports = .ok r ∧
      p.step host bind (.start name) =
        (.started (.ok true), p.set name { i with running := true } r) := by
  cases hi : p.find? name with
  | none => exact Or.inl (by rw [step, hi])
  | some i =>
    right
    rw [step_start hi]
    rcases i.start_cases (h.sound_of_find? hi) bind p.registry with
      ⟨e, fails⟩ | ⟨stopped, r, granted, starts⟩
    · exact Or.inl ⟨e, by rw [fails, h.set_self hi]⟩
    · exact Or.inr ⟨i, r, rfl, stopped, granted, by rw [starts]⟩

theorem start_error (h : p.Consistent) {e : ServiceError}
    (he : (p.step host bind (.start name)).1 = .started (.error e)) :
    (p.step host bind (.start name)).2 = p := by
  rcases h.start_cases name host bind with step | ⟨_, step⟩ | ⟨i, r, -, -, -, step⟩
  · rw [step]
  · rw [step]
  · rw [step] at he
    simp at he

/-- A stop that fails changes nothing. -/
theorem stop_error (h : p.Consistent) {e : ServiceError}
    (he : (p.step host bind (.stop name)).1 = .stopped (.error e)) :
    (p.step host bind (.stop name)).2 = p := by
  cases hi : p.find? name with
  | none => rw [step, hi]
  | some i =>
    rw [step_stop hi] at he ⊢
    cases running : i.running with
    | true =>
      rw [Instance.stop_of_running running] at he
      simp at he
    | false =>
      rw [Instance.stop_of_stopped running]
      exact h.set_self hi

/-- A stop takes back just what the start has claimed. -/
theorem stop_start (h : p.Consistent) {b : Bool} {host' : Host} {bind' : Binder}
    (hb : (p.step host bind (.start name)).1 = .started (.ok b)) :
    (p.step host bind (.start name)).2.step host' bind' (.stop name) = (.stopped (.ok ()), p) := by
  rcases h.start_cases name host bind with step | ⟨_, step⟩ | ⟨i, r, hi, stopped, granted, step⟩
  · rw [step] at hb
    simp at hb
  · rw [step] at hb
    simp at hb
  · -- the claim found all ports free, so the release takes nothing that was there before
    have back : ({ i with running := true } : Instance).releasePorts r = p.registry :=
      Registry.release_claim (h.sound_of_find? hi).1 granted
    have same : ({ i with running := false } : Instance) = i := by rw [← stopped]
    rw [step, step_stop (find?_set hi), Instance.stop_of_running rfl, set_set]
    dsimp only [Pool.set] at back ⊢
    rw [back, same]
    exact congrArg _ (h.set_self hi)

end Consistent

/-- After any moves from an empty pool, a stopped instance that need not listen starts, and claims just
its ports, iff no other running instance of its protocol holds one of them; otherwise the first that is
held is named. A start or a stop that fails leaves the pool as it was, whatever made it fail, and a stop
right after a start undoes it. -/
theorem start_all_or_nothing (ms : List Move) :
    let p := Pool.empty.run ms
    (∀ name i, p.find? name = some i → i.running = false → i.listening = false → ∀ host bind,
      ((p.step host bind (.start name)).1 = .started (.ok true) ∧
          p.Started name i (p.step host bind (.start name)).2 ↔
        ∀ port ∈ i.ports, ¬ p.Taken name i.config.protocol port) ∧
      ((∃ port ∈ i.ports, p.Taken name i.config.protocol port) →
        ∃ before port after, i.ports = before ++ port :: after ∧
          (∀ q ∈ before, ¬ p.Taken name i.config.protocol q) ∧
          p.Taken name i.config.protocol port ∧
          p.step host bind (.start name) = (.started (.error (.addressInUse port)), p))) ∧
    ∀ name host bind,
      (∀ e, (p.step host bind (.start name)).1 = .started (.error e) →
        (p.step host bind (.start name)).2 = p) ∧
      (∀ e, (p.step host bind (.stop name)).1 = .stopped (.error e) →
        (p.step host bind (.stop name)).2 = p) ∧
      (∀ b, (p.step host bind (.start name)).1 = .started (.ok b) → ∀ host' bind',
        (p.step host bind (.start name)).2.step host' bind' (.stop name) = (.stopped (.ok ()), p)) := by
  intro p
  have consistent : p.Consistent := Consistent.empty.run ms
  refine ⟨fun name i hi stopped quiet host bind => ?_, fun name host bind =>
    ⟨fun e => consistent.start_error, fun e => consistent.stop_error,
      fun b hb host' bind' => consistent.stop_start hb⟩⟩
  rcases consistent.start_decided hi stopped quiet host bind with
    ⟨free, starts⟩ | ⟨before, port, after, split, free, taken, fails⟩
  · exact ⟨⟨fun _ => free, fun _ => starts⟩,
      fun ⟨port, hport, taken⟩ => (free port hport taken).elim⟩
  · have hport : port ∈ i.ports := by simp [split]
    refine ⟨⟨fun ⟨ok, _⟩ => ?_, fun none => (none port hport taken).elim⟩,
      fun _ => ⟨before, port, after, split, free, taken, fails⟩⟩
    rw [fails] at ok
    simp at ok

/-- One instance runs on the second port of another one, and a third one listens. -/
def overlap : List Move :=
  let onPorts (primary alternate : Int) : List (String × Json) :=
    [(Key.primaryPort, .number (.integer primary)), (Key.alternatePort, .number (.integer alternate))]
  [.create "narrow" (.ofList (onPorts 4001 4002)) false,
    .create "wide" (.ofList ((Key.mode, .string "full") :: onPorts 4000 4001)) false,
    .create "loud" (.ofList (onPorts 5000 5001)) true,
    .start "narrow"].map fun op => ⟨.dualHomed, .withoutRuntime, op⟩

/-- None of the four ways to fail changes anything: the one with two ports finds its second one held, the
one that listens finds it in use on the machine, the one that runs cannot start and the one that does not
cannot stop. Where the machine has the socket, the one that listens starts, and its stop undoes that. -/
theorem start_of_overlap :
    let p := Pool.empty.run overlap
    let loud := p.step .dualHomed (.excluding []) (.start "loud")
    (∃ i, p.find? "wide" = some i ∧ i.running = false ∧ i.listening = false ∧
      i.ports = [4000, 4001]) ∧
    p.step .dualHomed .withoutRuntime (.start "wide") =
      (.started (.error (.addressInUse 4001)), p) ∧
    p.step .dualHomed (.excluding [5000]) (.start "loud") =
      (.started (.error (.addressInUse 5000)), p) ∧
    p.step .dualHomed .withoutRuntime (.start "narrow") = (.started (.error .alreadyRunning), p) ∧
    p.step .dualHomed .withoutRuntime (.stop "wide") = (.stopped (.error .notRunning), p) ∧
    loud.1 = .started (.ok true) ∧ (.udp, 5000) ∈ loud.2.registry.claimed ∧
    loud.2.step .dualHomed .withoutRuntime (.stop "loud") = (.stopped (.ok ()), p) := by
  intro p loud
  obtain ⟨decided, unchanged⟩ := start_all_or_nothing overlap
  obtain ⟨i, hi, stopped, quiet, ports, free, taken⟩ : ∃ i, p.find? "wide" = some i ∧
      i.running = false ∧ i.listening = false ∧ i.ports = [4000, 4001] ∧
      ¬ p.Taken "wide" i.config.protocol 4000 ∧ p.Taken "wide" i.config.protocol 4001 :=
    ⟨(p.find? "wide").get (by decide +kernel), by decide +kernel⟩
  have second : p.step .dualHomed .withoutRuntime (.start "wide") =
      (.started (.error (.addressInUse 4001)), p) := by
    obtain ⟨before, port, after, split, -, taken', fails⟩ :=
      (decided "wide" i hi stopped quiet .dualHomed .withoutRuntime).2 ⟨4001, by simp [ports], taken⟩
    have hport : port ∈ [4000, 4001] := by simp [← ports, split]
    rcases List.mem_pair.1 hport with rfl | rfl
    · exact (free taken').elim
    · exact fails
  have inUse : (p.step .dualHomed (.excluding [5000]) (.start "loud")).1 =
      .started (.error (.addressInUse 5000)) := by rfl
  have running : (p.step .dualHomed .withoutRuntime (.start "narrow")).1 =
      .started (.error .alreadyRunning) := by rfl
  have idle : (p.step .dualHomed .withoutRuntime (.stop "wide")).1 =
      .stopped (.error .notRunning) := by rfl
  have started : loud.1 = .started (.ok true) := by rfl
  exact ⟨⟨i, hi, stopped, quiet, ports⟩, second,
    Prod.ext inUse ((unchanged "loud" _ _).1 _ inUse),
    Prod.ext running ((unchanged "narrow" _ _).1 _ running),
    Prod.ext idle ((unchanged "wide" _ _).2.1 _ idle),
    started, by decide +kernel, (unchanged "loud" _ _).2.2 _ started _ _⟩

end Pool
end ServerTrials
