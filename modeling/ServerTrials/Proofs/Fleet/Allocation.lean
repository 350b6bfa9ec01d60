import ServerTrials.Proofs.Fleet.Ports

/-!
When the ports of a fleet fit.

Pairs are allocated by counting up in natural numbers. In machine words each pair is computed from the
index of its instance: the index is doubled, the base port is added, the sum is narrowed to a port, and the
alternate port is the next one. Every step can leave its word and is checked, and what passes the checks is
the exact number (`PortPair.ofIndex?_eq_some_iff`). Both ways lead to the same pairs or the same refusal, so
one bound decides: the ports fit iff `base + 2 n ≤ 65536`.
-/

namespace ServerTrials.Fleet

/-! ### Checked words -/

section Words

variable {n w : Nat} {a b c : BitVec n}

/-- The product of two words; none if it leaves the word. -/
def product? (a b : BitVec n) : Option (BitVec n) := if a.umulOverflow b then none else some (a * b)

/-- The sum of two words; none if it leaves the word. -/
def sum? (a b : BitVec n) : Option (BitVec n) := if a.uaddOverflow b then none else some (a + b)

/-- The word as one of another width; none if it does not fit. -/
def narrow? (w : Nat) (a : BitVec n) : Option (BitVec w) :=
  if (a.setWidth w).toNat = a.toNat then some (a.setWidth w) else none

theorem product?_eq_some_iff : product? a b = some c ↔ c.toNat = a.toNat * b.toNat := by
  have range := c.isLt
  rw [product?, BitVec.umulOverflow]
  by_cases fits : a.toNat * b.toNat < 2 ^ n
  · simp [fits, BitVec.toNat_eq, Nat.mod_eq_of_lt, eq_comm]
  · simp only [ge_iff_le, Nat.not_lt.1 fits, decide_true, if_true, reduceCtorEq, false_iff]
    omega

theorem sum?_eq_some_iff : sum? a b = some c ↔ c.toNat = a.toNat + b.toNat := by
  have range := c.isLt
  rw [sum?, BitVec.uaddOverflow]
  by_cases fits : a.toNat + b.toNat < 2 ^ n
  · simp [fits, BitVec.toNat_eq, Nat.mod_eq_of_lt, eq_comm]
  · simp only [ge_iff_le, Nat.not_lt.1 fits, decide_true, if_true, reduceCtorEq, false_iff]
    omega

theorem narrow?_eq_some_iff {c : BitVec w} : narrow? w a = some c ↔ c.toNat = a.toNat := by
  rw [narrow?, Option.ite_none_right_eq_some, Option.some.injEq]
  constructor
  · rintro ⟨fits, rfl⟩
    exact fits
  · intro same
    have narrowed : a.setWidth w = c := by
      rw [BitVec.toNat_eq, BitVec.toNat_setWidth, ← same, Nat.mod_eq_of_lt c.isLt]
    exact ⟨by rw [narrowed, same], narrowed⟩

end Words

/-! ### Pairs in words -/

/-- The ports of the instance of that index, with every step in words and checked. -/
def PortPair.ofIndex? (base : UInt16) (index : UInt64) : Option PortPair := do
  let offset ← product? index.toBitVec 2
  let port ← sum? offset (base.toBitVec.setWidth 64)
  let primary ← narrow? 16 port
  let alternate ← sum? primary 1
  some ⟨.ofBitVec primary, .ofBitVec alternate⟩

/-- In words the ports are the exact numbers, or there are none. -/
theorem PortPair.ofIndex?_eq_some_iff {base : UInt16} {index : UInt64} {ports : PortPair} :
    PortPair.ofIndex? base index = some ports ↔
      ports.primary.toNat = base.toNat + 2 * index.toNat ∧
        ports.alternate.toNat = base.toNat + 2 * index.toNat + 1 := by
  have small := base.toNat_lt
  have widened : (base.toBitVec.setWidth 64).toNat = base.toNat := by
    rw [BitVec.toNat_setWidth, UInt16.toNat_toBitVec]
    exact Nat.mod_eq_of_lt (by omega)
  simp only [ofIndex?, Option.bind_eq_bind, Option.bind_eq_some_iff, product?_eq_some_iff,
    sum?_eq_some_iff, narrow?_eq_some_iff, widened, Option.some.injEq]
  constructor
  · rintro ⟨offset, doubled, port, moved, primary, narrowed, alternate, next, rfl⟩
    have first : primary.toNat = base.toNat + 2 * index.toNat := by
      rw [narrowed, moved, doubled, Nat.add_comm, Nat.mul_comm]
      rfl
    exact ⟨first, next.trans (congrArg (· + 1) first)⟩
  · rintro ⟨first, second⟩
    have last := ports.alternate.toNat_lt
    have exact_word : ∀ m, m < 65536 → (BitVec.ofNat 64 m).toNat = m := fun m h => by
      rw [BitVec.toNat_ofNat, Nat.mod_eq_of_lt (by omega)]
    refine ⟨.ofNat 64 (2 * index.toNat), ?_, .ofNat 64 (base.toNat + 2 * index.toNat), ?_,
      ports.primary.toBitVec, ?_, ports.alternate.toBitVec, ?_, rfl⟩
    · rw [exact_word _ (by omega), Nat.mul_comm]
      rfl
    · rw [exact_word _ (by omega), exact_word _ (by omega), Nat.add_comm]
    · rw [exact_word _ (by omega)]
      exact first
    · exact second.trans (congrArg (· + 1) first.symm)

namespace Settings

/-- The pairs of all instances, each computed in words from its index. -/
def portPairsInWords (base : UInt16) (count : UInt64) : Except SettingsError (List PortPair) :=
  match (List.range count.toNat).mapM fun i => PortPair.ofIndex? base i.toUInt64 with
  | some pairs => .ok pairs
  | none => .error (.portRangeOverflow base count.toNat)

/-- Counting up allocates the pairs that words give, as long as the indices themselves fit a word. -/
theorem allocate_eq_mapM (base : UInt16) : ∀ {count start : Nat}, start + count < UInt64.size →
    allocate (base.toNat + 2 * start) count =
      (List.range' start count).mapM fun i => PortPair.ofIndex? base i.toUInt64
  | 0, start, _ => rfl
  | count + 1, start, fits => by
    have small : start < UInt64.size := by omega
    have index : start.toUInt64.toNat = start := UInt64.toNat_ofNat_of_lt' small
    have rest : allocate (base.toNat + 2 * (start + 1)) count =
        (List.range' (start + 1) count).mapM fun i => PortPair.ofIndex? base i.toUInt64 :=
      allocate_eq_mapM base (by omega)
    rw [Nat.mul_add, ← Nat.add_assoc] at rest
    rw [allocate, List.range'_succ, List.mapM_cons, ← rest]
    split
    next ports =>
      have pair : PortPair.ofIndex? base start.toUInt64 =
          some ⟨(base.toNat + 2 * start).toUInt16, (base.toNat + 2 * start + 1).toUInt16⟩ := by
        rw [PortPair.ofIndex?_eq_some_iff, index]
        exact ⟨UInt16.toNat_ofNat_of_lt' (Nat.lt_of_succ_lt ports), UInt16.toNat_ofNat_of_lt' ports⟩
      rw [pair]
      cases allocate (base.toNat + 2 * start + 2) count <;> rfl
    next beyond =>
      have none : PortPair.ofIndex? base start.toUInt64 = none := by
        refine Option.eq_none_iff_forall_ne_some.2 fun ports h => beyond ?_
        have last := ports.alternate.toNat_lt
        rw [PortPair.ofIndex?_eq_some_iff, index] at h
        omega
      rw [none]
      rfl

/-- Computing in words makes no difference. -/
theorem portPairsInWords_eq {s : Settings} {count : UInt64} (h : count.toNat = s.instanceCount) :
    portPairsInWords s.basePort count = s.portPairs := by
  have range := count.toNat_lt_size
  have same : allocate (s.basePort.toNat + 2 * 0) count.toNat =
      (List.range' 0 count.toNat).mapM fun i => PortPair.ofIndex? s.basePort i.toUInt64 :=
    allocate_eq_mapM s.basePort (by omega)
  rw [Nat.mul_zero, Nat.add_zero, ← List.range_eq_range', h] at same
  cases allocated : allocate s.basePort.toNat s.instanceCount with
  | some pairs => simp only [portPairsInWords, portPairs, h, ← same, allocated]
  | none => simp only [portPairsInWords, portPairs, h, ← same, allocated]

/-! ### The bound -/

theorem allocate_isSome_iff : ∀ {count next : Nat}, next ≤ 65536 →
    ((allocate next count).isSome = true ↔ next + 2 * count ≤ 65536)
  | 0, next, small => by simpa [allocate] using small
  | count + 1, next, small => by
    rw [allocate]
    split
    next fits =>
      rw [Option.isSome_map, allocate_isSome_iff (by omega)]
      omega
    next beyond =>
      simp only [Option.isSome_none, Bool.false_eq_true, false_iff]
      omega

/-- The ports fit, or this count and base are refused. -/
theorem portPairs_cases (s : Settings) :
    (s.basePort.toNat + 2 * s.instanceCount ≤ 65536 ∧ ∃ pairs, s.portPairs = .ok pairs) ∨
      (65536 < s.basePort.toNat + 2 * s.instanceCount ∧
        s.portPairs = .error (.portRangeOverflow s.basePort s.instanceCount)) := by
  have small := s.basePort.toNat_lt
  have decided : (allocate s.basePort.toNat s.instanceCount).isSome = true ↔
      s.basePort.toNat + 2 * s.instanceCount ≤ 65536 := allocate_isSome_iff (Nat.le_of_lt small)
  rw [portPairs]
  cases h : allocate s.basePort.toNat s.instanceCount with
  | some pairs => exact .inl ⟨decided.1 (by rw [h]; rfl), pairs, rfl⟩
  | none => exact .inr ⟨Nat.lt_of_not_le fun fits => by simpa [h] using decided.2 fits, rfl⟩

end Settings

/-! ### All ports -/

/-- Both ports of an instance. -/
def PortPair.ports (p : PortPair) : List UInt16 := [p.primary, p.alternate]

namespace Settings

/-- No port is allocated twice, neither to two instances nor to one. -/
theorem Allocated.nodup_ports {s : Settings} {pairs : List PortPair} (h : Allocated s pairs) :
    (pairs.flatMap PortPair.ports).Nodup := by
  refine List.nodup_flatMap.2 ⟨fun ports mem => ?_, List.pairwise_iff_getElem.2 ?_⟩
  · exact List.nodup_cons.2 ⟨fun same => (h.alternate_valid mem).2 (List.mem_singleton.1 same),
      List.nodup_singleton _⟩
  · intro i j hi hj lt p first second
    have at_place : ∀ {k} (hk : k < pairs.length), p ∈ PortPair.ports pairs[k] →
        p.toNat = s.basePort.toNat + 2 * k ∨ p.toNat = s.basePort.toNat + 2 * k + 1 := by
      intro k hk mem
      have pair := List.getElem?_eq_getElem hk
      rw [PortPair.ports, List.mem_pair] at mem
      rcases mem with rfl | rfl
      · exact .inl (h.primary k _ pair)
      · exact .inr (h.alternate k _ pair)
    have := at_place hi first
    have := at_place hj second
    omega

/-- Whether the ports of a fleet fit is one bound. If they do, instance `i` gets the ports `base + 2 i` and
`base + 2 i + 1`, and no port is allocated twice; if not, count and base are named. No step in words wraps
around: from any index they give these two numbers as ports or nothing, and so all pairs come out alike. -/
theorem portPairs_decides (s : Settings) :
    ((∃ pairs, s.portPairs = .ok pairs) ↔ s.basePort.toNat + 2 * s.instanceCount ≤ 65536) ∧
    (∀ pairs, s.portPairs = .ok pairs → pairs.length = s.instanceCount ∧
      (∀ i ports, pairs[i]? = some ports → ports.primary.toNat = s.basePort.toNat + 2 * i ∧
        ports.alternate.toNat = s.basePort.toNat + 2 * i + 1) ∧
      (pairs.flatMap PortPair.ports).Nodup) ∧
    (65536 < s.basePort.toNat + 2 * s.instanceCount →
      s.portPairs = .error (.portRangeOverflow s.basePort s.instanceCount)) ∧
    (∀ index ports, PortPair.ofIndex? s.basePort index = some ports ↔
      ports.primary.toNat = s.basePort.toNat + 2 * index.toNat ∧
        ports.alternate.toNat = s.basePort.toNat + 2 * index.toNat + 1) ∧
    ∀ count : UInt64, count.toNat = s.instanceCount →
      portPairsInWords s.basePort count = s.portPairs := by
  refine ⟨?_, fun pairs h => ?_, fun beyond => ?_, fun index ports => PortPair.ofIndex?_eq_some_iff,
    fun count => portPairsInWords_eq⟩
  · rcases portPairs_cases s with ⟨fits, allocated⟩ | ⟨beyond, refused⟩
    · exact ⟨fun _ => fits, fun _ => allocated⟩
    · rw [refused]
      exact ⟨fun ⟨_, h⟩ => by contradiction, fun fits => absurd fits (Nat.not_le_of_lt beyond)⟩
  · have allocated := allocated_of_portPairs h
    exact ⟨allocated.length, fun i ports hi => ⟨allocated.primary i ports hi,
      allocated.alternate i ports hi⟩, allocated.nodup_ports⟩
  · rcases portPairs_cases s with ⟨fits, -⟩ | ⟨-, refused⟩
    · exact absurd fits (Nat.not_le_of_lt beyond)
    · exact refused

/-- So many instances from that port on. -/
def fleetFrom (basePort : UInt16) (count : Nat) : Settings :=
  { Settings.default with basePort, instanceCount := count }

/-- Two instances get the last four ports, a third one does not fit, and neither do so many that a doubled
index leaves its word. -/
theorem portPairs_of_last_ports :
    (fleetFrom 65532 2).portPairs = .ok [⟨65532, 65533⟩, ⟨65534, 65535⟩] ∧
    (fleetFrom 65532 3).portPairs = .error (.portRangeOverflow 65532 3) ∧
    PortPair.ofIndex? 0 0x8000000000000000 = none ∧
    portPairsInWords 0 0x8000000000000001 = .error (.portRangeOverflow 0 0x8000000000000001) := by
  have most := portPairs_decides (fleetFrom 0 0x8000000000000001)
  refine ⟨rfl, (portPairs_decides (fleetFrom 65532 3)).2.2.1 (by decide), ?_, ?_⟩
  · refine Option.eq_none_iff_forall_ne_some.2 fun ports h => ?_
    have range := ports.primary.toNat_lt
    have exact_port : ports.primary.toNat = 0 + 2 * 0x8000000000000000 :=
      ((most.2.2.2.1 0x8000000000000000 ports).1 h).1
    omega
  · exact (most.2.2.2.2 0x8000000000000001 rfl).trans (most.2.2.1 (by decide))

end Settings
end ServerTrials.Fleet
