import Mathlib.Algebra.BigOperators.Ring.List
import Mathlib.Algebra.GroupWithZero.Nat
import ServerTrials.Proofs.Server.Instance
import ServerTrials.Server.Pool

/-!
Who holds what in a pool.

The registry does not note whose an entry is. Still a pool that comes about by moves never gives back what
is another's: its entries are those of the running instances, without repetition (`Consistent`), so no
entry has two owners. Every move keeps this up, whatever the host and the sockets are at that time.
-/

namespace ServerTrials.Pool

/-- The entries of some instances, one instance after another. -/
def heldBy (es : List (String × Instance)) : List (Protocol × UInt16) := es.flatMap (·.2.held)

/-- The registry holds the entries of the running instances, each once. -/
structure Consistent (p : Pool) : Prop where
  names : (p.instances.map (·.1)).Nodup
  sound : ∀ e ∈ p.instances, e.2.Sound
  claimed : p.registry.claimed.Perm (heldBy p.instances)
  nodup : p.registry.claimed.Nodup

variable {p : Pool} {name : String} {i i' : Instance} {r : Registry}

/-! ### The instance of a name among the others -/

/-- The instance of a name stands at one place; a change there leaves the others alone. -/
theorem exists_split (names : (p.instances.map (·.1)).Nodup) (h : p.find? name = some i) :
    ∃ before after, p.instances = before ++ (name, i) :: after ∧ p.others name = before ++ after ∧
      ∀ i' r, (p.set name i' r).instances = before ++ (name, i') :: after := by
  obtain ⟨⟨n, j⟩, hfind, rfl⟩ := Option.map_eq_some_iff.1 h
  obtain ⟨hn, before, after, split, first⟩ := List.find?_eq_some_iff_append.1 hfind
  obtain rfl : n = name := by simpa using hn
  have hbefore : ∀ e ∈ before, e.1 ≠ n := fun e he => by simpa using first e he
  have hafter : ∀ e ∈ after, e.1 ≠ n := fun e he eq => by
    rw [split, List.map_append, List.map_cons] at names
    exact (List.nodup_cons.1 (List.nodup_append.1 names).2.1).1 (List.mem_map.2 ⟨e, he, eq⟩)
  have kept : ∀ es : List (String × Instance), (∀ e ∈ es, e.1 ≠ n) → es.filter (·.1 != n) = es :=
    fun es hes => List.filter_eq_self.2 fun e he => by simpa using hes e he
  have same : ∀ i' (es : List (String × Instance)), (∀ e ∈ es, e.1 ≠ n) →
      es.map (fun e => if e.1 = n then (n, i') else e) = es :=
    fun i' es hes => (List.map_congr_left fun e he => if_neg (hes e he)).trans es.map_id
  refine ⟨before, after, split, ?_, fun i' r => ?_⟩
  · rw [others, split, List.filter_append, List.filter_cons, if_neg (by simp), kept _ hbefore,
      kept _ hafter]
  · rw [set, split, List.map_append, List.map_cons, if_pos rfl, same _ _ hbefore, same _ _ hafter]

theorem find?_eq_none_iff : p.find? name = none ↔ name ∉ p.instances.map (·.1) := by
  rw [find?, Option.map_eq_none_iff, List.find?_eq_none, List.mem_map]
  constructor
  · rintro h ⟨e, he, rfl⟩
    exact h e he BEq.rfl
  · intro h e he hn
    exact h ⟨e, he, beq_iff_eq.1 hn⟩

theorem mem_others {e : String × Instance} :
    e ∈ p.others name ↔ e ∈ p.instances ∧ e.1 ≠ name := by
  rw [others, List.mem_filter, bne_iff_ne]

theorem others_of_find?_eq_none (h : p.find? name = none) : p.others name = p.instances :=
  List.filter_eq_self.2 fun e he => by
    rw [bne_iff_ne]
    rintro rfl
    exact find?_eq_none_iff.1 h (List.mem_map_of_mem he)

theorem heldBy_middle (before after : List (String × Instance)) :
    (heldBy (before ++ (name, i) :: after)).Perm (i.held ++ heldBy (before ++ after)) := by
  rw [heldBy, heldBy, List.flatMap_append, List.flatMap_append, List.flatMap_cons]
  exact List.perm_append_comm_assoc ..

namespace Consistent

/-- The registry holds the entries of one instance and those of the others. -/
theorem perm_held (h : p.Consistent) (hi : p.find? name = some i) :
    p.registry.claimed.Perm (i.held ++ heldBy (p.others name)) := by
  obtain ⟨before, after, split, others, -⟩ := exists_split h.names hi
  rw [others]
  exact h.claimed.trans (split ▸ heldBy_middle before after)

/-- A running instance shares no entry with another one. -/
theorem not_held_by_others (h : p.Consistent) (hi : p.find? name = some i) {c : Protocol × UInt16}
    (hc : c ∈ i.held) : c ∉ heldBy (p.others name) := fun hmem => by
  have nodup := (h.perm_held hi).nodup_iff.1 h.nodup
  exact (List.nodup_append.1 nodup).2.2 c hc c hmem rfl

theorem sound_of_find? (h : p.Consistent) (hi : p.find? name = some i) : i.Sound := by
  obtain ⟨e, he, rfl⟩ := Option.map_eq_some_iff.1 hi
  exact h.sound e (List.mem_of_find?_eq_some he)

/-! ### What a move keeps up -/

theorem empty : Pool.empty.Consistent where
  names := List.nodup_nil
  sound e he := by simp [Pool.empty] at he
  claimed := List.Perm.refl _
  nodup := List.nodup_nil

/-- An instance may change at its place if the registry follows. -/
theorem set (h : p.Consistent) (hi : p.find? name = some i) (sound : i'.Sound)
    (claimed : r.claimed.Perm (i'.held ++ heldBy (p.others name))) (nodup : r.claimed.Nodup) :
    (p.set name i' r).Consistent := by
  obtain ⟨before, after, split, others, instances⟩ := exists_split h.names hi
  have names : (p.set name i' r).instances.map (·.1) = p.instances.map (·.1) := by
    simp [instances, split]
  refine ⟨names ▸ h.names, fun e he => ?_, ?_, nodup⟩
  · rw [instances, List.mem_append, List.mem_cons] at he
    rcases he with he | rfl | he
    · exact h.sound e (by simp [split, he])
    · exact sound
    · exact h.sound e (by simp [split, he])
  · rw [instances]
    exact (others ▸ claimed).trans (heldBy_middle before after).symm

/-- Nothing changes if an instance is set to what it is. -/
theorem set_self (h : p.Consistent) (hi : p.find? name = some i) : p.set name i p.registry = p := by
  obtain ⟨before, after, split, -, instances⟩ := exists_split h.names hi
  have same := (instances i p.registry).trans split.symm
  cases p
  exact congrArg (Pool.mk _) same

theorem drop (h : p.Consistent) (name : String) : (p.drop name).Consistent := by
  rw [Pool.drop]
  cases hi : p.find? name with
  | none => exact h
  | some i =>
    have sub : (p.others name).Sublist p.instances := List.filter_sublist
    exact ⟨h.names.sublist (sub.map _), fun e he => h.sound e (sub.subset he),
      Instance.perm_drop (h.perm_held hi) h.nodup, Instance.nodup_drop h.nodup⟩

theorem instances_drop (p : Pool) (name : String) : (p.drop name).instances = p.others name := by
  rw [Pool.drop]
  cases hi : p.find? name with
  | none => rw [others_of_find?_eq_none hi]
  | some i => rfl

theorem create (h : p.Consistent) (name : String) {o : OptionMap} {host : Host} {listening : Bool}
    (hi : Instance.create o host listening = .ok i) :
    ({ p.drop name with instances := (p.drop name).instances ++ [(name, i)] } : Pool).Consistent := by
  have dropped := h.drop name
  have stopped : i.held = [] := if_neg (by simp [(Instance.create_eq_ok hi).2.1])
  have fresh : name ∉ (p.drop name).instances.map (·.1) := by
    rw [instances_drop]
    intro hmem
    obtain ⟨e, he, hn⟩ := List.mem_map.1 hmem
    exact (mem_others.1 he).2 hn
  refine ⟨?_, fun e he => ?_, ?_, dropped.nodup⟩
  · rw [List.map_append, List.map_singleton]
    exact List.nodup_append.2 ⟨dropped.names, List.nodup_singleton _, fun a ha b hb => by
      rw [List.mem_singleton.1 hb]
      rintro rfl
      exact fresh ha⟩
  · rcases List.mem_append.1 he with he | he
    · exact dropped.sound e he
    · rw [List.mem_singleton.1 he]
      exact Instance.sound_of_create hi
  · rw [heldBy, List.flatMap_append, List.flatMap_singleton, stopped, List.append_nil]
    exact dropped.claimed

theorem start (h : p.Consistent) (hi : p.find? name = some i) (bind : Binder) :
    (p.set name (i.start bind p.registry).2.1 (i.start bind p.registry).2.2).Consistent := by
  have sound := h.sound_of_find? hi
  rcases i.start_cases sound bind p.registry with ⟨e, he⟩ | ⟨stopped, r', hclaim, hok⟩
  · rw [he, h.set_self hi]
    exact h
  · rw [hok]
    have claimed := Registry.claimed_of_claim sound.1 hclaim
    have before := h.perm_held hi
    rw [Instance.held, if_neg (by simp [stopped]), List.nil_append] at before
    have perm : r'.claimed.Perm (i.claims ++ p.registry.claimed) :=
      claimed ▸ (List.reverse_perm _).append_right _
    refine h.set hi sound (perm.trans (before.append_left _)) (perm.nodup_iff.2 ?_)
    refine List.nodup_append.2 ⟨Protocol.nodup_entries sound.1, h.nodup, fun c hc d hd e => ?_⟩
    obtain ⟨hprotocol, hport⟩ := Protocol.mem_entries.1 (e ▸ hc)
    refine Registry.free_of_claim hclaim d.2 hport ?_
    rw [← hprotocol]
    exact hd

theorem stop (h : p.Consistent) (hi : p.find? name = some i) :
    (p.set name (i.stop p.registry).2.1 (i.stop p.registry).2.2).Consistent := by
  have stopped : (i.stop p.registry).2.1.held = [] :=
    if_neg (by simp [Instance.running_stop])
  have sound : (i.stop p.registry).2.1.Sound := by
    rw [Instance.Sound, Instance.ports, Instance.config_stop]
    exact h.sound_of_find? hi
  refine h.set hi sound ?_ ?_
  · rw [stopped, List.nil_append, Instance.registry_stop]
    exact Instance.perm_drop (h.perm_held hi) h.nodup
  · rw [Instance.registry_stop]
    exact Instance.nodup_drop h.nodup

theorem next (h : p.Consistent) (m : Move) : (p.next m).Consistent := by
  rw [Pool.next]
  cases m.operation with
  | create name o listening =>
    dsimp only [step]
    cases hi : Instance.create o m.host listening with
    | error e => exact h
    | ok i => exact h.create name hi
  | start name =>
    dsimp only [step]
    cases hi : p.find? name with
    | none => exact h
    | some i => exact h.start hi m.bind
  | stop name =>
    dsimp only [step]
    cases hi : p.find? name with
    | none => exact h
    | some i => exact h.stop hi
  | drop name => exact h.drop name

theorem run (h : p.Consistent) (ms : List Move) : (p.run ms).Consistent := by
  induction ms generalizing p with
  | nil => exact h
  | cons m ms ih => exact ih (h.next m)

/-! ### What a consistent pool looks like -/

/-- An entry is there iff a running instance has it. -/
theorem mem_claimed_iff (h : p.Consistent) {c : Protocol × UInt16} :
    c ∈ p.registry.claimed ↔ ∃ e ∈ p.instances, e.2.running = true ∧ c ∈ e.2.claims := by
  rw [h.claimed.mem_iff, heldBy, List.mem_flatMap]
  refine exists_congr fun e => and_congr_right fun _ => ?_
  rw [Instance.held]
  cases e.2.running <;> simp

theorem disjoint_claims (h : p.Consistent) : p.instances.Pairwise fun a b =>
    a.2.running = true → b.2.running = true → a.2.claims.Disjoint b.2.claims := by
  have nodup := (List.nodup_flatMap.1 (h.claimed.nodup_iff.1 h.nodup)).2
  refine nodup.imp fun {a b} apart ha hb => ?_
  simpa only [Function.onFun, Instance.held, if_pos ha, if_pos hb] using apart

theorem count_eq_sum (h : p.Consistent) : p.registry.count
    = ((p.instances.filter (·.2.running)).map (·.2.ports.length)).sum := by
  rw [Registry.count, h.claimed.length_eq, heldBy, List.length_flatMap]
  generalize p.instances = es
  induction es with
  | nil => rfl
  | cons e es ih =>
    rw [List.map_cons, List.sum_cons, ih, List.filter_cons, Instance.held]
    cases e.2.running <;> simp [Instance.length_claims]

/-- No entry is that of port zero. -/
theorem port_ne_zero (h : p.Consistent) {c : Protocol × UInt16} (hc : c ∈ p.registry.claimed) :
    c.2 ≠ 0 := by
  obtain ⟨e, he, -, hc⟩ := h.mem_claimed_iff.1 hc
  exact fun zero => (h.sound e he).2 (zero ▸ (Protocol.mem_entries.1 hc).2)

end Consistent

/-! ### Runs -/

/-- The operation ends what the instance of that name holds: it stops or drops it, or a new one that is
accepted takes its place. -/
def Operation.Ends (host : Host) (name : String) : Operation → Prop
  | .stop n | .drop n => n = name
  | .create n o listening => n = name ∧ ∃ i, Instance.create o host listening = .ok i
  | .start _ => False

theorem registry_drop_of_stopped (hi : p.find? name = some i) (stopped : i.running = false) :
    (p.drop name).registry = p.registry := by
  rw [Pool.drop, hi]
  exact if_neg (by simp [stopped])

/-- However an instance ends, the registry is left as after dropping it. -/
theorem registry_next_of_ends {m : Move} (h : m.operation.Ends m.host name) :
    (p.next m).registry = (p.drop name).registry := by
  obtain ⟨host, bind, operation⟩ := m
  cases operation with
  | create n o listening =>
    obtain ⟨rfl, i, hi⟩ := h
    dsimp only [Pool.next, step]
    rw [hi]
  | start n => exact h.elim
  | stop n =>
    obtain rfl : n = name := h
    dsimp only [Pool.next, step]
    rw [Pool.drop]
    cases hi : p.find? n with
    | none => rfl
    | some i => exact Instance.registry_stop i p.registry
  | drop n =>
    obtain rfl : n = name := h
    rfl

/-- What is claimed once an instance has ended is what the other running instances have. -/
theorem Consistent.mem_claimed_next_iff (h : p.Consistent) {m : Move}
    (hm : m.operation.Ends m.host name) {c : Protocol × UInt16} :
    c ∈ (p.next m).registry.claimed ↔
      ∃ e ∈ p.instances, e.1 ≠ name ∧ e.2.running = true ∧ c ∈ e.2.claims := by
  rw [registry_next_of_ends hm, (h.drop name).mem_claimed_iff, Consistent.instances_drop]
  simp only [mem_others, and_assoc]

/-- An instance that ends leaves nothing behind. -/
theorem Consistent.not_mem_claimed_next (h : p.Consistent) {m : Move}
    (hm : m.operation.Ends m.host name) (hi : p.find? name = some i) (running : i.running = true)
    {c : Protocol × UInt16} (hc : c ∈ i.claims) : c ∉ (p.next m).registry.claimed := by
  rw [registry_next_of_ends hm, (h.drop name).claimed.mem_iff, Consistent.instances_drop]
  refine h.not_held_by_others hi ?_
  rwa [Instance.held, if_pos running]

/-- The end of a stopped instance changes nothing for the others. -/
theorem registry_next_of_stopped {m : Move} (hm : m.operation.Ends m.host name)
    (hi : p.find? name = some i) (stopped : i.running = false) :
    (p.next m).registry = p.registry := by
  rw [registry_next_of_ends hm, registry_drop_of_stopped hi stopped]

/-- After any moves from an empty pool, what is claimed is the disjoint union of what the running
instances hold. An instance that is stopped, dropped or replaced leaves nothing claimed, and if it was
stopped before, nothing is taken from those that hold its ports now. -/
theorem claimed_by_running (ms : List Move) :
    let p := Pool.empty.run ms
    (∀ c, c ∈ p.registry.claimed ↔ ∃ e ∈ p.instances, e.2.running = true ∧ c ∈ e.2.claims) ∧
    p.registry.claimed.Nodup ∧
    p.instances.Pairwise (fun a b =>
      a.2.running = true → b.2.running = true → a.2.claims.Disjoint b.2.claims) ∧
    p.registry.count = ((p.instances.filter (·.2.running)).map (·.2.ports.length)).sum ∧
    ∀ (m : Move) (name : String), m.operation.Ends m.host name →
      (∀ c, c ∈ (p.next m).registry.claimed ↔
        ∃ e ∈ p.instances, e.1 ≠ name ∧ e.2.running = true ∧ c ∈ e.2.claims) ∧
      (∀ i, p.find? name = some i → i.running = true →
        ∀ c ∈ i.claims, c ∉ (p.next m).registry.claimed) ∧
      (∀ i, p.find? name = some i → i.running = false → (p.next m).registry = p.registry) := by
  intro p
  have consistent : p.Consistent := Consistent.empty.run ms
  refine ⟨fun c => consistent.mem_claimed_iff, consistent.nodup, consistent.disjoint_claims,
    consistent.count_eq_sum, fun m name hm => ⟨fun c => consistent.mem_claimed_next_iff hm, ?_, ?_⟩⟩
  · exact fun i hi running c hc => consistent.not_mem_claimed_next hm hi running hc
  · exact fun i hi stopped => registry_next_of_stopped hm hi stopped

/-- An instance holds a port, and another one that wants the same port is refused. -/
def rivals : List Move :=
  let options := .ofList [(Key.protocol, .string "tcp"), (Key.mode, .string "full")]
  [.create "early" options false, .create "late" options false, .start "early", .start "late"].map
    fun op => ⟨.dualHomed, .withoutRuntime, op⟩

/-- Dropping the one that was refused leaves the other its port. -/
theorem claimed_after_refusal :
    (Operation.drop "late").Ends .dualHomed "late" ∧
      (.tcp, 3478) ∈ ((Pool.empty.run rivals).next
        ⟨.dualHomed, .withoutRuntime, .drop "late"⟩).registry.claimed := by
  have late : (Operation.drop "late").Ends .dualHomed "late" := rfl
  have others := ((claimed_by_running rivals).2.2.2.2 ⟨.dualHomed, .withoutRuntime, .drop "late"⟩
    "late" late).1
  exact ⟨late, (others (.tcp, 3478)).2 (by decide +kernel)⟩

end ServerTrials.Pool
