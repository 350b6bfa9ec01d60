import ServerTrials.Proofs.Server.Judging

/-!
Which options a server accepts, option by option.

The rules say what is wrong with options; here they are turned round. Each option that is judged has a
domain, which depends on what the options say about family, protocol and mode. Options are accepted iff every
value is in its domain, the ports differ and, in full mode, there are two different addresses (`Admissible`).
-/

namespace ServerTrials

namespace ServerConfig

/-- The value is a text of that kind. -/
def IsText (D : String → Prop) (v : Json) : Prop := ∃ s, v = .string s ∧ D s

/-- The value is an integer of that kind. -/
def IsInteger (D : Int → Prop) (v : Json) : Prop := ∃ n, v = .number (.integer n) ∧ D n

/-- The host has an address of the family on the interface of that name. -/
def Resolves (host : Host) (family : Family) (name : String) : Prop :=
  ∃ a, host.addressFor? family name = some a

/-- The text is a literal of the family. -/
def Spells (family : Family) (s : String) : Prop := ∃ a, IpAddress.ofText? family s = some a

/-- Every option that is judged is as a server on the host wants it. -/
structure Admissible (o : OptionMap) (host : Host) : Prop where
  mode : ∀ v ∈ o.get? Key.mode, IsText (fun s => s = "basic" ∨ s = "full") v
  family : ∀ v ∈ o.get? Key.family, IsInteger (fun n => n = 4 ∨ n = 6) v
  protocol : ∀ v ∈ o.get? Key.protocol, IsText (fun s => s = "udp" ∨ s = "tcp") v
  maxConnections : ∀ v ∈ o.get? Key.maxConnections, IsInteger (fun n => 1 ≤ n ∧ n ≤ 100000) v
  limitNeedsTcp : ∀ v ∈ o.get? Key.maxConnections, protocolOf o = .tcp
  primaryPort : ∀ v ∈ o.get? Key.primaryPort, IsInteger (fun n => 1 ≤ n ∧ n ≤ 65535) v
  alternatePort : ∀ v ∈ o.get? Key.alternatePort, IsInteger (fun n => 1 ≤ n ∧ n ≤ 65535) v
  portsDiffer : ∀ p, NamesPort o Key.primaryPort 3478 p → ¬ NamesPort o Key.alternatePort 3479 p
  primaryInterface : ∀ v ∈ o.get? Key.primaryInterface, IsText (Resolves host (familyOf o)) v
  alternateInterface : modeOf o = .full →
    ∀ v ∈ o.get? Key.alternateInterface, IsText (Resolves host (familyOf o)) v
  twoAddresses : modeOf o = .full →
    ∃ a b, host.Offers (familyOf o) a ∧ host.Offers (familyOf o) b ∧ a ≠ b
  addressesDiffer : modeOf o = .full → ∀ a, NamesPrimary o host a → ¬ NamesAlternate o host a a
  primaryAdvertised : ∀ v ∈ o.get? Key.primaryAdvertised, IsText (Spells (familyOf o)) v
  alternateAdvertised : ∀ v ∈ o.get? Key.alternateAdvertised, IsText (Spells (familyOf o)) v
  alternateNeedsFull : ∀ v ∈ o.get? Key.alternateAdvertised, modeOf o = .full

variable {o : OptionMap} {host : Host} {r : Rule} {key : String}

/-! ### Rules about one option -/

/-- A text is kept to its domain by two rules, one about its type and one about its value. -/
theorem keeps_text_iff {D : String → Prop}
    (broken : (∃ e, Violates o host r e) ↔ ∃ s, o.get? key = some (.string s) ∧ ¬ D s) :
    (Keeps o host (.isString key) ∧ Keeps o host r) ↔ ∀ v ∈ o.get? key, IsText D v := by
  constructor
  · rintro ⟨typed, kept⟩ v present
    have text : ∃ s, v = .string s := by
      by_contra other
      exact typed _ (.isString present (not_exists.1 other))
    obtain ⟨s, rfl⟩ := text
    refine ⟨s, rfl, ?_⟩
    by_contra out
    obtain ⟨e, violated⟩ := broken.2 ⟨s, present, out⟩
    exact kept e violated
  · intro domain
    constructor
    · intro e violated
      cases violated with
      | isString present other =>
        obtain ⟨s, hs, -⟩ := domain _ present
        exact other s hs
    · intro e violated
      obtain ⟨s, present, out⟩ := broken.1 ⟨e, violated⟩
      obtain ⟨s', hs, inside⟩ := domain _ present
      exact out (Json.string.inj hs ▸ inside)

/-- An integer is kept to its domain by two rules, one about its type and one about its value. -/
theorem keeps_integer_iff {D : Int → Prop}
    (fits : ∀ n, D n → Json.minInt64 ≤ n ∧ n < Json.int64Bound)
    (broken : (∃ e, Violates o host r e) ↔ ∃ n, o.get? key = some (.number (.integer n)) ∧ ¬ D n) :
    (Keeps o host (.isInteger key) ∧ Keeps o host r) ↔ ∀ v ∈ o.get? key, IsInteger D v := by
  constructor
  · rintro ⟨typed, kept⟩ v present
    have integer : ∃ n, v = .number (.integer n) := by
      by_contra other
      exact typed _ (.isInteger present fun n hn => absurd ⟨n, hn⟩ other)
    obtain ⟨n, rfl⟩ := integer
    refine ⟨n, rfl, ?_⟩
    by_contra out
    obtain ⟨e, violated⟩ := broken.2 ⟨n, present, out⟩
    exact kept e violated
  · intro domain
    constructor
    · intro e violated
      cases violated with
      | isInteger present other =>
        obtain ⟨n, hn, inside⟩ := domain _ present
        have range := fits n inside
        have out := other n hn
        omega
    · intro e violated
      obtain ⟨n, present, out⟩ := broken.1 ⟨e, violated⟩
      obtain ⟨n', hn, inside⟩ := domain _ present
      exact out (Json.Number.integer.inj (Json.number.inj hn) ▸ inside)

theorem keeps_mode_iff : (Keeps o host (.isString Key.mode) ∧ Keeps o host .knownMode) ↔
    ∀ v ∈ o.get? Key.mode, IsText (fun s => s = "basic" ∨ s = "full") v := by
  refine keeps_text_iff ⟨?_, ?_⟩
  · rintro ⟨e, violated⟩
    cases violated with
    | knownMode present basic full => exact ⟨_, present, not_or.2 ⟨basic, full⟩⟩
  · rintro ⟨s, present, other⟩
    exact ⟨_, .knownMode present (not_or.1 other).1 (not_or.1 other).2⟩

theorem keeps_protocol_iff : (Keeps o host (.isString Key.protocol) ∧ Keeps o host .knownProtocol) ↔
    ∀ v ∈ o.get? Key.protocol, IsText (fun s => s = "udp" ∨ s = "tcp") v := by
  refine keeps_text_iff ⟨?_, ?_⟩
  · rintro ⟨e, violated⟩
    cases violated with
    | knownProtocol present udp tcp => exact ⟨_, present, not_or.2 ⟨udp, tcp⟩⟩
  · rintro ⟨s, present, other⟩
    exact ⟨_, .knownProtocol present (not_or.1 other).1 (not_or.1 other).2⟩

theorem keeps_interface_iff : (Keeps o host (.isString key) ∧ Keeps o host (.resolves key)) ↔
    ∀ v ∈ o.get? key, IsText (Resolves host (familyOf o)) v := by
  refine keeps_text_iff ⟨?_, ?_⟩
  · rintro ⟨e, violated⟩
    cases violated with
    | resolves present none =>
      exact ⟨_, present, not_exists.2 (Option.eq_none_iff_forall_ne_some.1 none)⟩
  · rintro ⟨s, present, none⟩
    exact ⟨_, .resolves present (Option.eq_none_iff_forall_ne_some.2 (not_exists.1 none))⟩

theorem keeps_advertised_iff : (Keeps o host (.isString key) ∧ Keeps o host (.isAddress key)) ↔
    ∀ v ∈ o.get? key, IsText (Spells (familyOf o)) v := by
  refine keeps_text_iff ⟨?_, ?_⟩
  · rintro ⟨e, violated⟩
    cases violated with
    | isAddress present none =>
      exact ⟨_, present, not_exists.2 (Option.eq_none_iff_forall_ne_some.1 none)⟩
  · rintro ⟨s, present, none⟩
    exact ⟨_, .isAddress present (Option.eq_none_iff_forall_ne_some.2 (not_exists.1 none))⟩

theorem keeps_family_iff : (Keeps o host (.isInteger Key.family) ∧ Keeps o host .knownFamily) ↔
    ∀ v ∈ o.get? Key.family, IsInteger (fun n => n = 4 ∨ n = 6) v := by
  refine keeps_integer_iff (fun n => ?_) ⟨?_, ?_⟩
  · rintro (rfl | rfl) <;> decide
  · rintro ⟨e, violated⟩
    cases violated with
    | knownFamily present v4 v6 => exact ⟨_, present, not_or.2 ⟨v4, v6⟩⟩
  · rintro ⟨n, present, other⟩
    exact ⟨_, .knownFamily present (not_or.1 other).1 (not_or.1 other).2⟩

theorem keeps_limit_iff :
    (Keeps o host (.isInteger Key.maxConnections) ∧ Keeps o host .limitInRange) ↔
      ∀ v ∈ o.get? Key.maxConnections, IsInteger (fun n => 1 ≤ n ∧ n ≤ 100000) v := by
  refine keeps_integer_iff (fun n range => ?_) ⟨?_, ?_⟩
  · simp only [Json.minInt64, Json.int64Bound]
    omega
  · rintro ⟨e, violated⟩
    cases violated with
    | limitInRange present out => exact ⟨_, present, by omega⟩
  · rintro ⟨n, present, out⟩
    exact ⟨_, .limitInRange present (by omega)⟩

theorem keeps_port_iff : (Keeps o host (.isInteger key) ∧ Keeps o host (.portInRange key)) ↔
    ∀ v ∈ o.get? key, IsInteger (fun n => 1 ≤ n ∧ n ≤ 65535) v := by
  refine keeps_integer_iff (fun n range => ?_) ⟨?_, ?_⟩
  · simp only [Json.minInt64, Json.int64Bound]
    omega
  · rintro ⟨e, violated⟩
    cases violated with
    | portInRange present out => exact ⟨_, present, by omega⟩
  · rintro ⟨n, present, out⟩
    exact ⟨_, .portInRange present (by omega)⟩

/-! ### Rules about several options -/

theorem keeps_limitNeedsTcp_iff : Keeps o host .limitNeedsTcp ↔
    ∀ v ∈ o.get? Key.maxConnections, protocolOf o = .tcp := by
  constructor
  · intro kept v present
    by_contra other
    exact kept _ (.limitNeedsTcp present other)
  · intro tcp e violated
    cases violated with
    | limitNeedsTcp present other => exact other (tcp _ present)

theorem keeps_alternateNeedsFull_iff : Keeps o host .alternateNeedsFull ↔
    ∀ v ∈ o.get? Key.alternateAdvertised, modeOf o = .full := by
  constructor
  · intro kept v present
    cases mode : modeOf o with
    | basic => exact absurd (.alternateNeedsFull present mode) (kept _)
    | full => rfl
  · intro full e violated
    cases violated with
    | alternateNeedsFull present basic =>
      rw [full _ present] at basic
      contradiction

theorem keeps_portsDiffer_iff : Keeps o host .portsDiffer ↔
    ∀ p, NamesPort o Key.primaryPort 3478 p → ¬ NamesPort o Key.alternatePort 3479 p := by
  constructor
  · intro kept p primary alternate
    exact kept _ (.portsDiffer primary alternate)
  · intro differ e violated
    cases violated with
    | portsDiffer primary alternate => exact differ _ primary alternate

theorem keeps_twoAddresses_iff : Keeps o host .twoAddresses ↔
    ∃ a b, host.Offers (familyOf o) a ∧ host.Offers (familyOf o) b ∧ a ≠ b := by
  constructor
  · intro kept
    by_contra few
    refine kept _ (.twoAddresses fun a b ha hb => ?_)
    by_contra ne
    exact few ⟨a, b, ha, hb, ne⟩
  · rintro ⟨a, b, ha, hb, ne⟩ e violated
    cases violated with
    | twoAddresses same => exact ne (same a b ha hb)

theorem keeps_addressesDiffer_iff : Keeps o host .addressesDiffer ↔
    ∀ a, NamesPrimary o host a → ¬ NamesAlternate o host a a := by
  constructor
  · intro kept a primary alternate
    exact kept _ (.addressesDiffer primary alternate)
  · intro differ e violated
    cases violated with
    | addressesDiffer primary alternate => exact differ _ primary alternate

/-! ### All rules -/

theorem Rule.forall_mem_inOrder_iff {P : Rule → Prop} {mode : Mode} :
    (∀ r ∈ inOrder mode, P r) ↔
      (∀ r ∈ ofTransport, P r) ∧ (∀ r ∈ ofPorts, P r) ∧ (∀ r ∈ ofEndpoints mode, P r) ∧
        ∀ r ∈ ofAdvertised, P r := by
  simp only [inOrder, List.forall_mem_append]

/-- The endpoints of a full server are judged by more than those of a basic one. -/
theorem keeps_ofEndpoints_iff {mode : Mode} : (∀ r ∈ Rule.ofEndpoints mode, Keeps o host r) ↔
    (∀ v ∈ o.get? Key.primaryInterface, IsText (Resolves host (familyOf o)) v) ∧
    (mode = .full →
      (∀ v ∈ o.get? Key.alternateInterface, IsText (Resolves host (familyOf o)) v) ∧
      (∃ a b, host.Offers (familyOf o) a ∧ host.Offers (familyOf o) b ∧ a ≠ b) ∧
      ∀ a, NamesPrimary o host a → ¬ NamesAlternate o host a a) := by
  rw [← keeps_interface_iff, ← keeps_interface_iff, ← keeps_twoAddresses_iff,
    ← keeps_addressesDiffer_iff]
  cases mode <;> simp [Rule.ofEndpoints]
  tauto

/-- Options are accepted iff they are admissible. -/
theorem exists_ok_iff_admissible : (∃ c, ofOptions o host = .ok c) ↔ Admissible o host := by
  rw [(judges_ofOptions o host).exists_ok_iff, Rule.forall_mem_inOrder_iff, keeps_ofEndpoints_iff]
  simp only [Rule.ofTransport, Rule.ofPorts, Rule.ofAdvertised, List.forall_mem_cons]
  constructor
  · rintro ⟨⟨isMode, knownMode, isFamily, knownFamily, isProtocol, knownProtocol, isLimit, needsTcp,
        limitInRange, -⟩,
      ⟨isPrimary, primaryInRange, isAlternate, alternateInRange, differ, -⟩, ⟨primary, full⟩,
      ⟨isPrimaryText, isPrimaryAddress, isAlternateText, needsFull, isAlternateAddress, -⟩⟩
    exact {
      mode := keeps_mode_iff.1 ⟨isMode, knownMode⟩
      family := keeps_family_iff.1 ⟨isFamily, knownFamily⟩
      protocol := keeps_protocol_iff.1 ⟨isProtocol, knownProtocol⟩
      maxConnections := keeps_limit_iff.1 ⟨isLimit, limitInRange⟩
      limitNeedsTcp := keeps_limitNeedsTcp_iff.1 needsTcp
      primaryPort := keeps_port_iff.1 ⟨isPrimary, primaryInRange⟩
      alternatePort := keeps_port_iff.1 ⟨isAlternate, alternateInRange⟩
      portsDiffer := keeps_portsDiffer_iff.1 differ
      primaryInterface := primary
      alternateInterface := fun h => (full h).1
      twoAddresses := fun h => (full h).2.1
      addressesDiffer := fun h => (full h).2.2
      primaryAdvertised := keeps_advertised_iff.1 ⟨isPrimaryText, isPrimaryAddress⟩
      alternateAdvertised := keeps_advertised_iff.1 ⟨isAlternateText, isAlternateAddress⟩
      alternateNeedsFull := keeps_alternateNeedsFull_iff.1 needsFull }
  · intro h
    obtain ⟨isMode, knownMode⟩ := keeps_mode_iff.2 h.mode
    obtain ⟨isFamily, knownFamily⟩ := keeps_family_iff.2 h.family
    obtain ⟨isProtocol, knownProtocol⟩ := keeps_protocol_iff.2 h.protocol
    obtain ⟨isLimit, limitInRange⟩ := keeps_limit_iff.2 h.maxConnections
    obtain ⟨isPrimary, primaryInRange⟩ := keeps_port_iff.2 h.primaryPort
    obtain ⟨isAlternate, alternateInRange⟩ := keeps_port_iff.2 h.alternatePort
    obtain ⟨isPrimaryText, isPrimaryAddress⟩ := keeps_advertised_iff.2 h.primaryAdvertised
    obtain ⟨isAlternateText, isAlternateAddress⟩ := keeps_advertised_iff.2 h.alternateAdvertised
    refine ⟨⟨isMode, knownMode, isFamily, knownFamily, isProtocol, knownProtocol, isLimit,
        keeps_limitNeedsTcp_iff.2 h.limitNeedsTcp, limitInRange, by simp⟩,
      ⟨isPrimary, primaryInRange, isAlternate, alternateInRange,
        keeps_portsDiffer_iff.2 h.portsDiffer, by simp⟩,
      ⟨h.primaryInterface, fun full =>
        ⟨h.alternateInterface full, h.twoAddresses full, h.addressesDiffer full⟩⟩,
      ⟨isPrimaryText, isPrimaryAddress, isAlternateText,
        keeps_alternateNeedsFull_iff.2 h.alternateNeedsFull, isAlternateAddress, by simp⟩⟩

end ServerConfig
end ServerTrials
