import ServerTrials.Proofs.Net.Addresses
import ServerTrials.Server.Config

/-!
The rules that options are judged by, as conditions on the options and the host.

Mode, family, protocol and ports are what the options say, or else a default. `Violates o host r e` says
that the options break the rule `r`, which the error `e` tells of. The rules have an order, which depends on
the mode alone (`Rule.inOrder`). None of this follows the course of a judgement: a rule is broken or not
whatever the rules before it say.
-/

namespace ServerTrials

namespace ServerConfig

/-! ### What the options say -/

/-- The mode that the options ask for. -/
def modeOf (o : OptionMap) : Mode :=
  if o.get? Key.mode = some (.string "full") then .full else .basic

/-- The family that the options ask for. -/
def familyOf (o : OptionMap) : Family :=
  if o.get? Key.family = some (.number (.integer 6)) then .v6 else .v4

/-- The protocol that the options ask for. -/
def protocolOf (o : OptionMap) : Protocol :=
  if o.get? Key.protocol = some (.string "tcp") then .tcp else .udp

/-- The port is the one that an option names, or the default if it is left out. -/
def NamesPort (o : OptionMap) (key : String) (default port : UInt16) : Prop :=
  o.get? key = none ∧ port = default ∨ o.get? key = some (.number (.integer port.toNat))

/-- The address is that of the interface which an option names, or the given one if it is left out. -/
def NamesAddress (o : OptionMap) (host : Host) (key : String) (unnamed : Option IpAddress)
    (a : IpAddress) : Prop :=
  o.get? key = none ∧ unnamed = some a ∨
    ∃ name, o.get? key = some (.string name) ∧ host.addressFor? (familyOf o) name = some a

/-- The primary address of a full server: by default the first one of the host. -/
def NamesPrimary (o : OptionMap) (host : Host) (a : IpAddress) : Prop :=
  NamesAddress o host Key.primaryInterface (host.addresses (familyOf o)).head? a

/-- The alternate address of a full server, beside its primary one: by default the first other one of the
host. -/
def NamesAlternate (o : OptionMap) (host : Host) (primary a : IpAddress) : Prop :=
  NamesAddress o host Key.alternateInterface ((host.addresses (familyOf o)).find? (· != primary)) a

/-- The endpoints of a server with these ports: one address of a basic server, two of a full one. -/
def NamesEndpoints (o : OptionMap) (host : Host) (primary alternate : UInt16) : Mode → Endpoints → Prop
  | .basic, es => ∃ a, NamesAddress o host Key.primaryInterface (some (.unspecified (familyOf o))) a ∧
      es = ⟨⟨a, primary⟩, none, none, none⟩
  | .full, es => ∃ p a, NamesPrimary o host p ∧ NamesAlternate o host p a ∧
      es = ⟨⟨p, primary⟩, some ⟨p, alternate⟩, some ⟨a, primary⟩, some ⟨a, alternate⟩⟩

/-- The address that clients are told is the one that an option spells, or none if it is left out. -/
def NamesAdvertised (o : OptionMap) (key : String) (told : Option IpAddress) : Prop :=
  o.get? key = none ∧ told = none ∨
    ∃ s a, o.get? key = some (.string s) ∧ IpAddress.ofText? (familyOf o) s = some a ∧ told = some a

/-- The configuration says what the options say on the host, the defaults included. -/
structure Follows (o : OptionMap) (host : Host) (c : ServerConfig) : Prop where
  mode : c.mode = modeOf o
  family : c.family = familyOf o
  protocol : c.protocol = protocolOf o
  maxConnections : o.get? Key.maxConnections = c.maxConnections.map fun n : Nat => .number (.integer n)
  primaryPort : NamesPort o Key.primaryPort 3478 c.primaryPort
  alternatePort : NamesPort o Key.alternatePort 3479 c.alternatePort
  endpoints : NamesEndpoints o host c.primaryPort c.alternatePort c.mode c.endpoints
  primaryAdvertised : NamesAdvertised o Key.primaryAdvertised c.primaryAdvertised
  alternateAdvertised : NamesAdvertised o Key.alternateAdvertised c.alternateAdvertised
  verbosity : c.verbosity = readVerbosity o

/-! ### The rules -/

/-- A rule; one that several options are judged by is told with the option. -/
inductive Rule where
  /-- The option is a string. -/
  | isString (key : String)
  /-- The option is an integer of 64 bits. -/
  | isInteger (key : String)
  /-- The mode is basic or full. -/
  | knownMode
  /-- The family is 4 or 6. -/
  | knownFamily
  /-- The protocol is UDP or TCP. -/
  | knownProtocol
  /-- A limit of connections needs TCP. -/
  | limitNeedsTcp
  /-- The limit of connections is in range. -/
  | limitInRange
  /-- The port is in range. -/
  | portInRange (key : String)
  /-- The two ports differ. -/
  | portsDiffer
  /-- The host has two addresses of the family. -/
  | twoAddresses
  /-- The interface has an address of the family. -/
  | resolves (key : String)
  /-- The two addresses differ. -/
  | addressesDiffer
  /-- The address that clients are told is a literal of the family. -/
  | isAddress (key : String)
  /-- An alternate one needs full mode. -/
  | alternateNeedsFull
  deriving DecidableEq, Repr

/-- The options break the rule on the host, which is told by the error. -/
inductive Violates (o : OptionMap) (host : Host) : Rule → ConfigError → Prop where
  | isString {key : String} {v : Json} (present : o.get? key = some v) (other : ∀ s, v ≠ .string s) :
    Violates o host (.isString key) (.invalidType key "a string")
  | isInteger {key : String} {v : Json} (present : o.get? key = some v)
    (other : ∀ n, v = .number (.integer n) → n < Json.minInt64 ∨ Json.int64Bound ≤ n) :
    Violates o host (.isInteger key) (.invalidType key "an integer")
  | knownMode {s : String} (present : o.get? Key.mode = some (.string s)) (basic : s ≠ "basic")
    (full : s ≠ "full") : Violates o host .knownMode (.invalidMode s)
  | knownFamily {n : Int} (present : o.get? Key.family = some (.number (.integer n))) (v4 : n ≠ 4)
    (v6 : n ≠ 6) : Violates o host .knownFamily (.invalidFamily n)
  | knownProtocol {s : String} (present : o.get? Key.protocol = some (.string s)) (udp : s ≠ "udp")
    (tcp : s ≠ "tcp") : Violates o host .knownProtocol (.unsupportedProtocol s)
  | limitNeedsTcp {v : Json} (present : o.get? Key.maxConnections = some v)
    (other : protocolOf o ≠ .tcp) : Violates o host .limitNeedsTcp .maxConnectionsWithoutTcp
  | limitInRange {n : Int} (present : o.get? Key.maxConnections = some (.number (.integer n)))
    (out : n < 1 ∨ 100000 < n) : Violates o host .limitInRange (.maxConnectionsOutOfRange n)
  | portInRange {key : String} {n : Int} (present : o.get? key = some (.number (.integer n)))
    (out : n < 1 ∨ 65535 < n) : Violates o host (.portInRange key) (.portOutOfRange key n)
  | portsDiffer {p : UInt16} (primary : NamesPort o Key.primaryPort 3478 p)
    (alternate : NamesPort o Key.alternatePort 3479 p) :
    Violates o host .portsDiffer (.portCollision p)
  | twoAddresses (atMostOne : ∀ a b, host.Offers (familyOf o) a → host.Offers (familyOf o) b → a = b) :
    Violates o host .twoAddresses (.insufficientAddresses (familyOf o))
  | resolves {key name : String} (present : o.get? key = some (.string name))
    (none : host.addressFor? (familyOf o) name = none) :
    Violates o host (.resolves key) (.interfaceNotFound key name)
  | addressesDiffer {a : IpAddress} (primary : NamesPrimary o host a)
    (alternate : NamesAlternate o host a a) : Violates o host .addressesDiffer (.sameAddress a)
  | isAddress {key s : String} (present : o.get? key = some (.string s))
    (other : IpAddress.ofText? (familyOf o) s = none) :
    Violates o host (.isAddress key) (.invalidAdvertised key s (familyOf o))
  | alternateNeedsFull {v : Json} (present : o.get? Key.alternateAdvertised = some v)
    (basic : modeOf o = .basic) :
    Violates o host .alternateNeedsFull .alternateAdvertisedRequiresFull

/-- The options keep the rule on the host. -/
def Keeps (o : OptionMap) (host : Host) (r : Rule) : Prop := ∀ e, ¬ Violates o host r e

/-- The first of the rules that the options break is told by the error. -/
def FirstViolated (o : OptionMap) (host : Host) (rules : List Rule) (e : ConfigError) : Prop :=
  ∃ before r after, rules = before ++ r :: after ∧ (∀ q ∈ before, Keeps o host q) ∧ Violates o host r e

namespace Rule

/-- The option that a rule is about, if it is a single one. -/
def option? : Rule → Option String
  | .isString key | .isInteger key | .portInRange key | .resolves key | .isAddress key => some key
  | .knownMode => some Key.mode
  | .knownFamily => some Key.family
  | .knownProtocol => some Key.protocol
  | .limitNeedsTcp | .limitInRange => some Key.maxConnections
  | .alternateNeedsFull => some Key.alternateAdvertised
  | .portsDiffer | .twoAddresses | .addressesDiffer => none

/-- The rules about the connections of a server, in their order. -/
def ofTransport : List Rule :=
  [.isString Key.mode, .knownMode, .isInteger Key.family, .knownFamily, .isString Key.protocol,
    .knownProtocol, .isInteger Key.maxConnections, .limitNeedsTcp, .limitInRange]

/-- The rules about the ports, in their order. -/
def ofPorts : List Rule :=
  [.isInteger Key.primaryPort, .portInRange Key.primaryPort, .isInteger Key.alternatePort,
    .portInRange Key.alternatePort, .portsDiffer]

/-- The rules about the endpoints, in their order. -/
def ofEndpoints : Mode → List Rule
  | .basic => [.isString Key.primaryInterface, .resolves Key.primaryInterface]
  | .full => [.twoAddresses, .isString Key.primaryInterface, .resolves Key.primaryInterface,
      .isString Key.alternateInterface, .resolves Key.alternateInterface, .addressesDiffer]

/-- The rules about the addresses that clients are told, in their order. -/
def ofAdvertised : List Rule :=
  [.isString Key.primaryAdvertised, .isAddress Key.primaryAdvertised, .isString Key.alternateAdvertised,
    .alternateNeedsFull, .isAddress Key.alternateAdvertised]

/-- All rules in their order. -/
def inOrder (mode : Mode) : List Rule :=
  ofTransport ++ (ofPorts ++ (ofEndpoints mode ++ ofAdvertised))

end Rule

variable {o : OptionMap} {host : Host} {r : Rule} {e e' : ConfigError}

/-- An option that is left out breaks no rule about it. -/
theorem keeps_of_absent {key : String} (about : r.option? = some key) (absent : o.get? key = none) :
    Keeps o host r := by
  intro e h
  have present : ∃ v, o.get? key = some v := by
    cases h with
    | isString p | isInteger p | knownMode p | knownFamily p | knownProtocol p | limitNeedsTcp p
    | limitInRange p | portInRange p | resolves p | isAddress p | alternateNeedsFull p =>
      obtain rfl := Option.some.inj about
      exact ⟨_, p⟩
    | portsDiffer | twoAddresses | addressesDiffer => contradiction
  obtain ⟨v, present⟩ := present
  rw [absent] at present
  contradiction

/-- An option that is a string is not of another type. -/
theorem keeps_isString {key s : String} (present : o.get? key = some (.string s)) :
    Keeps o host (.isString key) := by
  intro e broken
  cases broken with
  | isString there other => exact other s (Option.some.inj (there.symm.trans present))

/-! ### One error for a rule -/

theorem string_unique {key s s' : String} (h : o.get? key = some (.string s))
    (h' : o.get? key = some (.string s')) : s = s' :=
  Json.string.inj (Option.some.inj (h.symm.trans h'))

theorem integer_unique {key : String} {n n' : Int} (h : o.get? key = some (.number (.integer n)))
    (h' : o.get? key = some (.number (.integer n'))) : n = n' :=
  Json.Number.integer.inj (Json.number.inj (Option.some.inj (h.symm.trans h')))

theorem NamesPort.unique {key : String} {default p q : UInt16} (hp : NamesPort o key default p)
    (hq : NamesPort o key default q) : p = q := by
  rcases hp with ⟨absent, rfl⟩ | hp <;> rcases hq with ⟨absent', rfl⟩ | hq
  · rfl
  · rw [absent] at hq
    contradiction
  · rw [absent'] at hp
    contradiction
  · exact UInt16.toNat_inj.1 (Int.ofNat.inj (integer_unique hp hq))

theorem NamesAddress.unique {key : String} {unnamed : Option IpAddress} {a b : IpAddress}
    (ha : NamesAddress o host key unnamed a) (hb : NamesAddress o host key unnamed b) : a = b := by
  rcases ha with ⟨absent, ha⟩ | ⟨name, present, ha⟩ <;>
    rcases hb with ⟨absent', hb⟩ | ⟨name', present', hb⟩
  · exact Option.some.inj (ha.symm.trans hb)
  · rw [absent] at present'
    contradiction
  · rw [absent'] at present
    contradiction
  · rw [string_unique present present'] at ha
    exact Option.some.inj (ha.symm.trans hb)

/-- What is wrong about a rule is told by one error. -/
theorem Violates.error_unique (h : Violates o host r e) (h' : Violates o host r e') : e = e' := by
  cases h with
  | isString | isInteger | limitNeedsTcp | twoAddresses | alternateNeedsFull => cases h'; rfl
  | knownMode present => cases h' with | knownMode present' => rw [string_unique present present']
  | knownFamily present => cases h' with | knownFamily present' => rw [integer_unique present present']
  | knownProtocol present =>
    cases h' with | knownProtocol present' => rw [string_unique present present']
  | limitInRange present => cases h' with | limitInRange present' => rw [integer_unique present present']
  | portInRange present => cases h' with | portInRange present' => rw [integer_unique present present']
  | portsDiffer primary => cases h' with | portsDiffer primary' => rw [primary.unique primary']
  | resolves present => cases h' with | resolves present' => rw [string_unique present present']
  | addressesDiffer primary =>
    cases h' with | addressesDiffer primary' => rw [NamesAddress.unique primary primary']
  | isAddress present => cases h' with | isAddress present' => rw [string_unique present present']

/-- Of rules in an order one is the first that is violated, and it is told by one error. -/
theorem FirstViolated.error_unique {rules : List Rule} (h : FirstViolated o host rules e)
    (h' : FirstViolated o host rules e') : e = e' := by
  obtain ⟨before, r, after, split, kept, broken⟩ := h
  obtain ⟨before', r', after', split', kept', broken'⟩ := h'
  rw [split] at split'
  rcases List.append_eq_append_iff.1 split' with ⟨between, rfl, rest⟩ | ⟨between, rfl, rest⟩
  · cases between with
    | nil =>
      obtain rfl := (List.cons.inj rest).1
      exact broken.error_unique broken'
    | cons q qs =>
      obtain rfl := (List.cons.inj rest).1
      exact absurd broken (kept' r (by simp) e)
  · cases between with
    | nil =>
      obtain rfl := (List.cons.inj rest).1
      exact broken.error_unique broken'
    | cons q qs =>
      obtain rfl := (List.cons.inj rest).1
      exact absurd broken' (kept r' (by simp) e')

/-- A default alternate address is not the primary one, so the two can only be the same if the options
name an alternate interface. -/
theorem named_of_violates_addressesDiffer (h : Violates o host .addressesDiffer e) :
    ∃ name, o.get? Key.alternateInterface = some (.string name) := by
  cases h with
  | addressesDiffer primary alternate =>
    rcases alternate with ⟨-, found⟩ | ⟨name, present, -⟩
    · have other := List.find?_some found
      simp at other
    · exact ⟨name, present⟩

end ServerConfig
end ServerTrials
