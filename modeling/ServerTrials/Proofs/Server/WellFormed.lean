import Mathlib.Data.List.ReduceOption
import ServerTrials.Proofs.Server.Judging

/-!
Every configuration that a server accepts is well formed.

An accepted configuration follows its options and the options keep all rules, so what holds of it is read
off the rules and not off the course of the reading. `Placed` says which addresses and ports stand at which
endpoints; that no endpoint and no bound port repeats, and that the bound ports are those of the endpoints,
follows from it.
-/

namespace ServerTrials

namespace Endpoints

/-- All endpoints of a server. -/
def toList (es : Endpoints) : List Endpoint := es.pp :: [es.pa, es.ap, es.aa].reduceOption

@[simp] theorem toList_basic (e : Endpoint) : toList ⟨e, none, none, none⟩ = [e] := rfl

@[simp] theorem toList_full (e₁ e₂ e₃ e₄ : Endpoint) :
    toList ⟨e₁, some e₂, some e₃, some e₄⟩ = [e₁, e₂, e₃, e₄] := rfl

end Endpoints

namespace ServerConfig

/-- Where the endpoints of a server are on the host. -/
inductive Placed (host : Host) (c : ServerConfig) : Prop where
  /-- A basic server has one endpoint, on all addresses of the family or on one of the host. -/
  | basic {a : IpAddress} (mode : c.mode = .basic)
    (endpoints : c.endpoints = ⟨⟨a, c.primaryPort⟩, none, none, none⟩)
    (known : a = .unspecified c.family ∨ a ∈ host.addresses c.family)
  /-- A full server has two addresses of the host, each with both ports. -/
  | full {p a : IpAddress} (mode : c.mode = .full)
    (endpoints : c.endpoints = ⟨⟨p, c.primaryPort⟩, some ⟨p, c.alternatePort⟩, some ⟨a, c.primaryPort⟩,
      some ⟨a, c.alternatePort⟩⟩)
    (differ : p ≠ a) (primary : p ∈ host.addresses c.family) (alternate : a ∈ host.addresses c.family)

/-- What a server on the host relies on in its configuration. -/
structure WellFormed (host : Host) (c : ServerConfig) : Prop where
  ports_ne_zero : c.primaryPort ≠ 0 ∧ c.alternatePort ≠ 0
  ports_differ : c.primaryPort ≠ c.alternatePort
  maxConnections : ∀ n, c.maxConnections = some n → c.protocol = .tcp ∧ 1 ≤ n ∧ n ≤ 100000
  placed : Placed host c
  endpoints_nodup : c.endpoints.toList.Nodup
  endpoints_family : ∀ e ∈ c.endpoints.toList, e.address.family = c.family
  advertised_family : ∀ a, c.primaryAdvertised = some a ∨ c.alternateAdvertised = some a →
    a.family = c.family
  alternateAdvertised : c.alternateAdvertised ≠ none → c.mode = .full
  boundPorts_nodup : c.boundPorts.Nodup
  mem_boundPorts : ∀ port, port ∈ c.boundPorts ↔ ∃ e ∈ c.endpoints.toList, e.port = port

variable {o : OptionMap} {host : Host} {c : ServerConfig}

/-! ### Ports, addresses and limits that options name -/

theorem NamesPort.ne_zero {key : String} {default port : UInt16} (h : NamesPort o key default port)
    (kept : Keeps o host (.portInRange key)) (valid : default ≠ 0) : port ≠ 0 := by
  rintro rfl
  rcases h with ⟨-, unnamed⟩ | named
  · exact valid unnamed.symm
  · exact kept _ (.portInRange named (by decide))

theorem NamesAddress.mem_addresses {key : String} {unnamed : Option IpAddress} {a : IpAddress}
    (h : NamesAddress o host key unnamed a) : unnamed = some a ∨ a ∈ host.addresses (familyOf o) := by
  rcases h with ⟨-, unnamed⟩ | ⟨name, -, found⟩
  · exact Or.inl unnamed
  · exact Or.inr (Host.mem_addresses_iff.2 (Host.offers_of_addressFor? found))

theorem NamesPrimary.mem_addresses {p : IpAddress} (h : NamesPrimary o host p) :
    p ∈ host.addresses (familyOf o) := by
  rcases NamesAddress.mem_addresses h with first | mem
  · exact List.mem_of_head? first
  · exact mem

theorem NamesAlternate.mem_addresses {p a : IpAddress} (h : NamesAlternate o host p a) :
    a ∈ host.addresses (familyOf o) := by
  rcases NamesAddress.mem_addresses h with other | mem
  · exact List.mem_of_find?_eq_some other
  · exact mem

theorem NamesAdvertised.family {key : String} {told : Option IpAddress} {a : IpAddress}
    (h : NamesAdvertised o key told) (is : told = some a) : a.family = familyOf o := by
  rcases h with ⟨-, untold⟩ | ⟨s, b, -, spelled, named⟩
  · rw [untold] at is
    contradiction
  · obtain rfl := Option.some.inj (is.symm.trans named)
    exact IpAddress.family_of_ofText? spelled

theorem NamesAdvertised.mode_eq_full {told : Option IpAddress}
    (h : NamesAdvertised o Key.alternateAdvertised told) (needsFull : Keeps o host .alternateNeedsFull)
    (named : told ≠ none) : modeOf o = .full := by
  rcases h with ⟨-, unnamed⟩ | ⟨s, a, present, -⟩
  · exact absurd unnamed named
  · cases mode : modeOf o with
    | basic => exact absurd (.alternateNeedsFull present mode) (needsFull _)
    | full => rfl

theorem Follows.maxConnections_range (follows : Follows o host c) (needsTcp : Keeps o host .limitNeedsTcp)
    (inRange : Keeps o host .limitInRange) {n : Nat} (limit : c.maxConnections = some n) :
    c.protocol = .tcp ∧ 1 ≤ n ∧ n ≤ 100000 := by
  have named : o.get? Key.maxConnections = some (.number (.integer n)) := by
    rw [follows.maxConnections, limit, Option.map_some]
  refine ⟨?_, ?_⟩
  · rw [follows.protocol]
    by_contra other
    exact needsTcp _ (.limitNeedsTcp named other)
  · by_contra out
    exact inRange _ (.limitInRange named (by omega))

/-! ### Endpoints -/

theorem Follows.placed (follows : Follows o host c)
    (differ : c.mode = .full → Keeps o host .addressesDiffer) : Placed host c := by
  have endpoints := follows.endpoints
  cases mode : c.mode with
  | basic =>
    rw [mode] at endpoints
    obtain ⟨a, named, endpoints⟩ := endpoints
    refine .basic mode endpoints ?_
    rw [follows.family]
    rcases named.mem_addresses with unnamed | mem
    · exact Or.inl (Option.some.inj unnamed).symm
    · exact Or.inr mem
  | full =>
    rw [mode] at endpoints
    obtain ⟨p, a, primary, alternate, endpoints⟩ := endpoints
    refine .full mode endpoints ?_ ?_ ?_
    · rintro rfl
      exact differ mode _ (.addressesDiffer primary alternate)
    · exact follows.family ▸ primary.mem_addresses
    · exact follows.family ▸ alternate.mem_addresses

namespace Placed

/-- Two addresses and two ports make four different endpoints. -/
theorem endpoints_nodup (h : Placed host c) (ports : c.primaryPort ≠ c.alternatePort) :
    c.endpoints.toList.Nodup := by
  cases h with
  | basic _ endpoints => simp [endpoints]
  | full _ endpoints differ => simp [endpoints, differ, ports]

theorem endpoints_family (h : Placed host c) : ∀ e ∈ c.endpoints.toList, e.address.family = c.family := by
  cases h with
  | basic _ endpoints known =>
    rw [endpoints, Endpoints.toList_basic, List.forall_mem_singleton]
    rcases known with rfl | mem
    · exact IpAddress.family_unspecified c.family
    · exact (Host.mem_addresses_iff.1 mem).1
  | full _ endpoints _ primary alternate =>
    have familyP := (Host.mem_addresses_iff.1 primary).1
    have familyA := (Host.mem_addresses_iff.1 alternate).1
    simp [endpoints, familyP, familyA]

theorem boundPorts_nodup (h : Placed host c) (ports : c.primaryPort ≠ c.alternatePort) :
    c.boundPorts.Nodup := by
  rw [boundPorts]
  cases h with
  | basic mode => simp [mode]
  | full mode => simp [mode, ports]

/-- The ports that a server binds are those of its endpoints. -/
theorem mem_boundPorts (h : Placed host c) (port : UInt16) :
    port ∈ c.boundPorts ↔ ∃ e ∈ c.endpoints.toList, e.port = port := by
  rw [boundPorts]
  cases h with
  | basic mode endpoints => simp [mode, endpoints, eq_comm]
  | full mode endpoints =>
    simp only [mode, endpoints, Endpoints.toList_full, List.mem_cons, List.not_mem_nil, or_false,
      exists_eq_or_imp, exists_eq_left, eq_comm (b := port)]
    -- each port stands at two endpoints
    tauto

end Placed

/-! ### Accepted configurations -/

/-- A configuration that a server on the host accepts is well formed, whatever options it was read from. -/
theorem wellFormed_of_ofOptions (o : OptionMap) (host : Host) (c : ServerConfig)
    (accepted : ofOptions o host = .ok c) : WellFormed host c := by
  have judged := judges_ofOptions o host
  rw [accepted] at judged
  obtain ⟨kept, follows⟩ := judged
  have primary : c.primaryPort ≠ 0 :=
    follows.primaryPort.ne_zero (kept _ (by simp [Rule.inOrder, Rule.ofPorts])) (by decide)
  have alternate : c.alternatePort ≠ 0 :=
    follows.alternatePort.ne_zero (kept _ (by simp [Rule.inOrder, Rule.ofPorts])) (by decide)
  have differ : c.primaryPort ≠ c.alternatePort := fun same =>
    kept .portsDiffer (by simp [Rule.inOrder, Rule.ofPorts]) _
      (.portsDiffer follows.primaryPort (same ▸ follows.alternatePort))
  have needsTcp := kept .limitNeedsTcp (by simp [Rule.inOrder, Rule.ofTransport])
  have inRange := kept .limitInRange (by simp [Rule.inOrder, Rule.ofTransport])
  have placed : Placed host c := follows.placed fun full => by
    refine kept .addressesDiffer ?_
    rw [← follows.mode, full]
    simp [Rule.inOrder, Rule.ofEndpoints]
  have needsFull := kept .alternateNeedsFull (by simp [Rule.inOrder, Rule.ofAdvertised])
  refine
    { ports_ne_zero := ⟨primary, alternate⟩
      ports_differ := differ
      maxConnections := fun n => follows.maxConnections_range needsTcp inRange
      placed
      endpoints_nodup := placed.endpoints_nodup differ
      endpoints_family := placed.endpoints_family
      advertised_family := ?_
      alternateAdvertised := fun told =>
        follows.mode.trans (follows.alternateAdvertised.mode_eq_full needsFull told)
      boundPorts_nodup := placed.boundPorts_nodup differ
      mem_boundPorts := placed.mem_boundPorts }
  rw [follows.family]
  rintro a (told | told)
  · exact follows.primaryAdvertised.family told
  · exact follows.alternateAdvertised.family told

/-- A full server on a host with two interfaces. -/
theorem wellFormed_behindRouter :
    ∃ c, ofOptions behindRouter .dualHomed = .ok c ∧ c.mode = .full ∧ WellFormed .dualHomed c :=
  ⟨_, rfl, by rfl, wellFormed_of_ofOptions behindRouter .dualHomed _ rfl⟩

end ServerConfig
end ServerTrials
