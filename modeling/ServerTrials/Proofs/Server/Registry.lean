import Mathlib.Data.List.Nodup
import ServerTrials.Server.Instance

/-!
Claims on the registry: what a claim adds, a release takes away, and nothing else.

A claim is granted iff none of its ports is held for the protocol. Granted ports come to the front, and
giving them back leaves the registry as it was before, to the order of its entries.
-/

namespace ServerTrials

/-- Ports as the entries that they are in a registry. -/
def Protocol.entries (protocol : Protocol) (ports : List UInt16) : List (Protocol × UInt16) :=
  ports.map (protocol, ·)

theorem Protocol.mem_entries {protocol : Protocol} {ports : List UInt16} {c : Protocol × UInt16} :
    c ∈ protocol.entries ports ↔ c.1 = protocol ∧ c.2 ∈ ports := by
  rw [entries, List.mem_map]
  constructor
  · rintro ⟨p, hp, rfl⟩
    exact ⟨rfl, hp⟩
  · rintro ⟨rfl, h⟩
    exact ⟨c.2, h, rfl⟩

theorem Protocol.nodup_entries {protocol : Protocol} {ports : List UInt16} (h : ports.Nodup) :
    (protocol.entries ports).Nodup :=
  h.map fun _ _ e => (Prod.mk.inj e).2

namespace Registry

variable {r r' : Registry} {protocol : Protocol} {ports : List UInt16}

/-- None of the ports is held for the protocol. -/
def Free (r : Registry) (protocol : Protocol) (ports : List UInt16) : Prop :=
  ∀ p ∈ ports, (protocol, p) ∉ r.claimed

theorem isClaimed_iff {p : UInt16} : r.isClaimed protocol p = true ↔ (protocol, p) ∈ r.claimed :=
  decide_eq_true_iff

theorem free_iff_find? : r.Free protocol ports ↔ ports.find? (r.isClaimed protocol) = none := by
  rw [List.find?_eq_none]
  simp only [isClaimed_iff]
  rfl

theorem claim_of_free (h : r.Free protocol ports) :
    r.claim protocol ports = .ok (ports.foldl (fun r p => r.add protocol p) r) := by
  rw [claim, free_iff_find?.1 h]

theorem free_of_claim (h : r.claim protocol ports = .ok r') : r.Free protocol ports := by
  rw [free_iff_find?]
  cases hf : ports.find? (r.isClaimed protocol) with
  | none => rfl
  | some p => rw [claim, hf] at h; simp at h

/-- A refusal names a port that is held, the first of those asked for. -/
theorem claim_of_find? {p : UInt16} (h : ports.find? (r.isClaimed protocol) = some p) :
    r.claim protocol ports = .error (.addressInUse p) := by
  rw [claim, h]

/-- Either all the ports are free, or one of them is the first that is held, and the refusal names it. -/
theorem free_or_refused (r : Registry) (protocol : Protocol) (ports : List UInt16) :
    r.Free protocol ports ∨ ∃ before port after, ports = before ++ port :: after ∧
      r.Free protocol before ∧ (protocol, port) ∈ r.claimed ∧
      r.claim protocol ports = .error (.addressInUse port) := by
  cases found : ports.find? (r.isClaimed protocol) with
  | none => exact Or.inl (free_iff_find?.2 found)
  | some port =>
    obtain ⟨held, before, after, split, first⟩ := List.find?_eq_some_iff_append.1 found
    refine Or.inr ⟨before, port, after, split, fun q hq hmem => ?_, isClaimed_iff.1 held,
      claim_of_find? found⟩
    simpa [isClaimed_iff.2 hmem] using first q hq

theorem claimed_add {p : UInt16} (h : (protocol, p) ∉ r.claimed) :
    (r.add protocol p).claimed = (protocol, p) :: r.claimed := by
  rw [add, if_neg (mt isClaimed_iff.1 h)]

theorem claimed_foldl_add : ∀ {ports : List UInt16} {r : Registry}, ports.Nodup →
    r.Free protocol ports →
    (ports.foldl (fun r p => r.add protocol p) r).claimed
      = (protocol.entries ports).reverse ++ r.claimed
  | [], _, _, _ => rfl
  | p :: ps, r, nodup, free => by
    obtain ⟨fresh, rest⟩ := List.nodup_cons.1 nodup
    obtain ⟨hp, hps⟩ := List.forall_mem_cons.1 free
    have free' : (r.add protocol p).Free protocol ps := fun q hq hmem => by
      rw [claimed_add hp, List.mem_cons] at hmem
      rcases hmem with e | hmem
      · exact fresh ((Prod.mk.inj e).2 ▸ hq)
      · exact hps q hq hmem
    rw [List.foldl_cons, claimed_foldl_add rest free', claimed_add hp, Protocol.entries,
      Protocol.entries, List.map_cons, List.reverse_cons, List.append_assoc, List.singleton_append]

/-- A granted claim brings its ports to the front. -/
theorem claimed_of_claim (nodup : ports.Nodup) (h : r.claim protocol ports = .ok r') :
    r'.claimed = (protocol.entries ports).reverse ++ r.claimed := by
  have free := free_of_claim h
  rw [claim_of_free free, Except.ok.injEq] at h
  rw [← h, claimed_foldl_add nodup free]

theorem claimed_release (r : Registry) (protocol : Protocol) (ports : List UInt16) :
    (r.release protocol ports).claimed = r.claimed.filter fun c => c ∉ protocol.entries ports := by
  rw [release]
  refine List.filter_congr fun c _ => ?_
  rw [Bool.eq_iff_iff]
  simp [Protocol.mem_entries]

/-- Ports that were free are just what their release takes away again. -/
theorem release_claim (nodup : ports.Nodup) (h : r.claim protocol ports = .ok r') :
    r'.release protocol ports = r := by
  have mine : (protocol.entries ports).reverse.filter (fun c => c ∉ protocol.entries ports) = [] :=
    List.filter_eq_nil_iff.2 fun c hc => by simp [List.mem_reverse.1 hc]
  have theirs : r.claimed.filter (fun c => c ∉ protocol.entries ports) = r.claimed :=
    List.filter_eq_self.2 fun c hc => by
      have free := free_of_claim h
      simp only [decide_eq_true_eq, Protocol.mem_entries]
      rintro ⟨rfl, hp⟩
      exact free c.2 hp hc
  have claimed : (r'.release protocol ports).claimed = r.claimed := by
    rw [claimed_release, claimed_of_claim nodup h, List.filter_append, mine, theirs, List.nil_append]
  cases r
  exact congrArg Registry.mk claimed

end Registry
end ServerTrials
