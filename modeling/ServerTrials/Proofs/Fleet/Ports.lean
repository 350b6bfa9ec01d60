import ServerTrials.Fleet.Settings
import ServerTrials.Proofs.Options
import ServerTrials.Proofs.Server.Instance

/-!
The ports of a fleet, and what its instances make of them.

Instance `i` gets the ports `base + 2 i` and `base + 2 i + 1`, so no two instances share a port and only a
primary port can be zero. Of the options of an instance the primary port alone can be wrong, on any host.
-/

namespace ServerTrials

open Fleet

/-! ### Allocated ports -/

theorem toNat_eq_zero_iff {port : UInt16} : port.toNat = 0 ↔ port = 0 := by
  rw [← UInt16.toNat_inj]
  rfl

namespace Fleet.Settings

theorem allocate_eq_some : ∀ {count next : Nat} {pairs : List PortPair},
    allocate next count = some pairs → pairs.length = count ∧
      ∀ i ports, pairs[i]? = some ports →
        ports.primary.toNat = next + 2 * i ∧ ports.alternate.toNat = next + 2 * i + 1
  | 0, next, pairs, h => by
    obtain rfl := Option.some.inj h
    exact ⟨rfl, fun i ports hi => by simp at hi⟩
  | count + 1, next, pairs, h => by
    rw [allocate] at h
    split at h
    next fits =>
      obtain ⟨rest, hrest, rfl⟩ := Option.map_eq_some_iff.1 h
      obtain ⟨length, ports_of⟩ := allocate_eq_some hrest
      refine ⟨congrArg (· + 1) length, fun i ports hi => ?_⟩
      cases i with
      | zero =>
        obtain rfl := Option.some.inj hi
        exact ⟨UInt16.toNat_ofNat_of_lt' (Nat.lt_of_succ_lt fits), UInt16.toNat_ofNat_of_lt' fits⟩
      | succ i =>
        obtain ⟨primary, alternate⟩ := ports_of i ports hi
        exact ⟨by omega, by omega⟩
    · simp at h

/-- The pairs of a fleet, in the order of its instances. -/
structure Allocated (s : Settings) (pairs : List PortPair) : Prop where
  length : pairs.length = s.instanceCount
  primary : ∀ i ports, pairs[i]? = some ports → ports.primary.toNat = s.basePort.toNat + 2 * i
  alternate : ∀ i ports, pairs[i]? = some ports → ports.alternate.toNat = s.basePort.toNat + 2 * i + 1

theorem allocated_of_portPairs {s : Settings} {pairs : List PortPair} (h : s.portPairs = .ok pairs) :
    Allocated s pairs := by
  rw [portPairs] at h
  cases hp : allocate s.basePort.toNat s.instanceCount with
  | none => rw [hp] at h; simp at h
  | some pairs' =>
    rw [hp] at h
    obtain rfl := Except.ok.inj h
    obtain ⟨length, ports_of⟩ := allocate_eq_some hp
    exact ⟨length, fun i ports hi => (ports_of i ports hi).1, fun i ports hi => (ports_of i ports hi).2⟩

namespace Allocated

variable {s : Settings} {pairs : List PortPair} {ports : PortPair}

/-- No two instances have a primary port in common. -/
theorem nodup_primary (h : Allocated s pairs) : (pairs.map (·.primary)).Nodup := by
  refine List.nodup_iff_getElem?_ne_getElem?.2 fun i j lt hj e => ?_
  rw [List.length_map] at hj
  rw [List.getElem?_map, List.getElem?_map, List.getElem?_eq_getElem (by omega),
    List.getElem?_eq_getElem hj] at e
  have same := congrArg UInt16.toNat (Option.some.inj e)
  rw [h.primary i _ (List.getElem?_eq_getElem (by omega)),
    h.primary j _ (List.getElem?_eq_getElem hj)] at same
  omega

/-- An alternate port is not zero, and not the primary one. -/
theorem alternate_valid (h : Allocated s pairs) (mem : ports ∈ pairs) :
    ports.alternate ≠ 0 ∧ ports.primary ≠ ports.alternate := by
  obtain ⟨i, hi⟩ := List.mem_iff_getElem?.1 mem
  have primary := h.primary i ports hi
  have alternate := h.alternate i ports hi
  refine ⟨fun e => ?_, fun e => ?_⟩
  · rw [e] at alternate
    exact absurd alternate (by simp)
  · rw [← e] at alternate
    omega

end Allocated

end Fleet.Settings

/-! ### The options of an instance -/

theorem get?_instanceOptions (ports : PortPair) (key : String) :
    (instanceOptions ports).get? key =
      if Key.alternatePort = key then some (.number (.integer ports.alternate.toNat))
      else if Key.primaryPort = key then some (.number (.integer ports.primary.toNat))
      else if Key.mode = key then some (.string "basic")
      else if Key.protocol = key then some (.string "tcp")
      else none := by
  simp only [instanceOptions, OptionMap.ofList, List.foldl_cons, List.foldl_nil, OptionMap.get?_insert,
    OptionMap.get?_empty]

namespace ServerConfig

/-- The configuration of an instance on these ports. -/
def onPorts (ports : PortPair) : ServerConfig where
  protocol := .tcp
  mode := .basic
  family := .v4
  maxConnections := none
  primaryPort := ports.primary
  alternatePort := ports.alternate
  endpoints := ⟨⟨.unspecified .v4, ports.primary⟩, none, none, none⟩
  primaryAdvertised := none
  alternateAdvertised := none
  verbosity := none

theorem integer?_of_get? {o : OptionMap} {key : String} {v : Json} {n : Int} (h : o.get? key = some v)
    (hv : v.int64? = some n) : o.integer? key = .ok (some n) := by
  rw [OptionMap.integer?, h]
  dsimp only
  rw [hv]

theorem int64?_port (port : UInt16) :
    (Json.number (.integer port.toNat)).int64? = some (port.toNat : Int) := by
  have lt := port.toNat_lt
  rw [Json.int64?, if_pos]
  rw [Json.minInt64, Json.int64Bound]
  omega

theorem readPort_of_get? {o : OptionMap} {key : String} {default port : UInt16}
    (h : o.get? key = some (.number (.integer port.toNat))) :
    readPort o key default = if port = 0 then .error (.portOutOfRange key 0) else .ok port := by
  rw [readPort, integer?_of_get? h (int64?_port port)]
  have range : (1 ≤ (port.toNat : Int) ∧ (port.toNat : Int) < 65536) ↔ port ≠ 0 := by
    have lt := port.toNat_lt
    rw [ne_eq, ← toNat_eq_zero_iff]
    omega
  by_cases zero : port = 0
  · subst zero
    rfl
  · simp [zero, bind, Except.bind, range.2 zero]

theorem readMode_instanceOptions (ports : PortPair) : readMode (instanceOptions ports) = .ok .basic := by
  rw [readMode, OptionMap.string?, get?_instanceOptions]
  rfl

theorem readFamily_instanceOptions (ports : PortPair) : readFamily (instanceOptions ports) = .ok .v4 := by
  rw [readFamily, OptionMap.integer?, get?_instanceOptions]
  rfl

theorem readProtocol_instanceOptions (ports : PortPair) :
    readProtocol (instanceOptions ports) = .ok .tcp := by
  rw [readProtocol, OptionMap.string?, get?_instanceOptions]
  rfl

theorem readMaxConnections_instanceOptions (ports : PortPair) :
    readMaxConnections (instanceOptions ports) .tcp = .ok none := by
  rw [readMaxConnections, OptionMap.integer?, get?_instanceOptions]
  rfl

/-- What the options of an instance say, rule by rule, if its ports are ports. -/
theorem judged_instanceOptions {ports : PortPair} (host : Host) (primary : ports.primary ≠ 0)
    (alternate : ports.alternate ≠ 0) (apart : ports.primary ≠ ports.alternate) :
    Judged (instanceOptions ports) host (onPorts ports) where
  mode := readMode_instanceOptions ports
  family := readFamily_instanceOptions ports
  protocol := readProtocol_instanceOptions ports
  maxConnections := readMaxConnections_instanceOptions ports
  primaryPort :=
    (readPort_of_get? (get?_instanceOptions ports Key.primaryPort)).trans (if_neg primary)
  alternatePort :=
    (readPort_of_get? (get?_instanceOptions ports Key.alternatePort)).trans (if_neg alternate)
  ports_ne := apart
  endpoints := by
    rw [onPorts, readEndpoints, basicEndpoints, readInterface, OptionMap.string?, get?_instanceOptions]
    rfl
  primaryAdvertised := by
    rw [readAdvertised, OptionMap.string?, get?_instanceOptions]
    rfl
  alternateAdvertised := by
    rw [readAlternateAdvertised, OptionMap.string?, get?_instanceOptions]
    rfl
  verbosity := by
    rw [readVerbosity, get?_instanceOptions]
    rfl

theorem ofOptions_instanceOptions_of_zero {ports : PortPair} (host : Host) (zero : ports.primary = 0) :
    ofOptions (instanceOptions ports) host = .error (.portOutOfRange Key.primaryPort 0) :=
  ofOptions_of_readPrimaryPort (readMode_instanceOptions ports) (readFamily_instanceOptions ports)
    (readProtocol_instanceOptions ports) (readMaxConnections_instanceOptions ports)
    ((readPort_of_get? (get?_instanceOptions ports Key.primaryPort)).trans (if_pos zero))

end ServerConfig

/-! ### The instances -/

namespace Instance

/-- An instance that does not run, on these ports. -/
def onPorts (ports : PortPair) : Instance := ⟨.onPorts ports, false, false⟩

variable {ports : PortPair}

theorem create_of_zero (host : Host) (zero : ports.primary = 0) :
    create (instanceOptions ports) host false =
      .error (.invalidConfig (.portOutOfRange Key.primaryPort 0)) := by
  rw [create, ServerConfig.ofOptions_instanceOptions_of_zero host zero]

theorem create_of_ports (host : Host) (primary : ports.primary ≠ 0) (alternate : ports.alternate ≠ 0)
    (apart : ports.primary ≠ ports.alternate) :
    create (instanceOptions ports) host false = .ok (onPorts ports) := by
  rw [create, ServerConfig.ofOptions_of_judged
    (ServerConfig.judged_instanceOptions host primary alternate apart)]
  rfl

theorem start_of_held (bind : Binder) {r : Registry} (held : (.tcp, ports.primary) ∈ r.claimed) :
    (onPorts ports).start bind r = (.error (.addressInUse ports.primary), onPorts ports, r) := by
  have found : (onPorts ports).ports.find? (r.isClaimed .tcp) = some ports.primary :=
    List.find?_cons_of_pos (Registry.isClaimed_iff.2 held)
  have refused : r.claim (onPorts ports).config.protocol (onPorts ports).ports =
      .error (.addressInUse ports.primary) := Registry.claim_of_find? found
  exact start_of_refused rfl refused

theorem start_of_free (bind : Binder) {r : Registry} (free : (.tcp, ports.primary) ∉ r.claimed) :
    (onPorts ports).start bind r = (.ok true, { onPorts ports with running := true },
      ⟨(.tcp, ports.primary) :: r.claimed⟩) := by
  have all_free : r.Free .tcp (onPorts ports).ports := fun p hp => List.mem_singleton.1 hp ▸ free
  have granted : r.claim (onPorts ports).config.protocol (onPorts ports).ports =
      .ok ⟨(.tcp, ports.primary) :: r.claimed⟩ := by
    refine (Registry.claim_of_free all_free).trans (congrArg Except.ok ?_)
    exact if_neg (mt Registry.isClaimed_iff.1 free)
  exact start_of_granted rfl rfl granted

end Instance

end ServerTrials
