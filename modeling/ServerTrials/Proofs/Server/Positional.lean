import ServerTrials.Proofs.Options
import ServerTrials.Proofs.Server.Config
import ServerTrials.Proofs.Server.Judging
import ServerTrials.Server.Positional

/-!
The ports of a server that is started with positional arguments.

Every argument is read like an object, whose members are copied into the options under the names of its
role; then the port of the role is filled in if none was copied. So after both endpoints the options hold two
ports, each given by its own argument or else the default (`ports_of_options`), and the extras do not touch
them.

The default of the alternate port is the successor of the primary one modulo 65536, taken before any rule
judges either port. This does no harm: a successor that wrapped around is port zero, which is out of range,
and no port is its own successor.
-/

namespace ServerTrials

namespace Positional

/-- An endpoint argument as the members of an object: a number is the port alone. -/
def endpointMembers : Option Json → List (String × Json)
  | some (.number n) => [("port", .number n)]
  | some (.object members) => members
  | _ => []

/-- Extras as the members of an object: a string is the protocol alone. -/
def extraMembers : Option Json → List (String × Json)
  | some (.string s) => [(Key.protocol, .string s)]
  | some (.object members) => members
  | _ => []

/-- The port that an endpoint argument gives. -/
def givenPort (argument : Option Json) : Option Json := Json.get? (endpointMembers argument) "port"

/-- The port is the one that an endpoint argument gives, or the default if it gives none. -/
def ResolvesPort (argument : Option Json) (default port : Int) : Prop :=
  givenPort argument = none ∧ port = default ∨ givenPort argument = some (.number (.integer port))

theorem ResolvesPort.unique {arg : Option Json} {default p q : Int} (hp : ResolvesPort arg default p)
    (hq : ResolvesPort arg default q) : p = q := by
  rcases hp with ⟨absent, rfl⟩ | given <;> rcases hq with ⟨absent', rfl⟩ | given'
  · rfl
  · rw [absent] at given'
    contradiction
  · rw [absent'] at given
    contradiction
  · exact Json.Number.integer.inj (Json.number.inj (Option.some.inj (given.symm.trans given')))

/-- The members of an endpoint, each with the option that it becomes. -/
def Role.names (role : Role) : List (String × String) :=
  [("port", role.port), ("interface", role.interface), ("advertised", role.advertised)]

/-- The members of extras, each with the option that it becomes, which has the same name. -/
def extraNames : List (String × String) := extraKeys.map fun k => (k, k)

variable {o o₁ o₂ : OptionMap} {position : Nat} {role : Role} {arg : Option Json}
  {missing : Except ConfigError Int} {key : String}

/-! ### Copied members -/

theorem get?_copy (members : List (String × Json)) (o : OptionMap) (names : String × String)
    (key : String) :
    (copy members o names).get? key =
      if names.2 = key then (Json.get? members names.1).or (o.get? key) else o.get? key := by
  unfold copy
  cases Json.get? members names.1 with
  | none => simp
  | some v => simp [OptionMap.get?_insert]

/-- Options that no member becomes are left alone. -/
theorem get?_foldl_copy_of_not_mem (members : List (String × Json)) {names : List (String × String)}
    (other : key ∉ names.map (·.2)) (o : OptionMap) :
    (names.foldl (copy members) o).get? key = o.get? key := by
  induction names generalizing o with
  | nil => rfl
  | cons n names ih =>
    rw [List.map_cons, List.mem_cons, not_or] at other
    obtain ⟨hn, others⟩ := other
    rw [List.foldl_cons, ih others, get?_copy, if_neg (Ne.symm hn)]

/-- A member becomes its option, which is left alone if there is no such member. -/
theorem get?_foldl_copy_of_mem (members : List (String × Json)) {names : List (String × String)}
    (distinct : (names.map (·.2)).Nodup) {name : String} (mem : (name, key) ∈ names) (o : OptionMap) :
    (names.foldl (copy members) o).get? key = (Json.get? members name).or (o.get? key) := by
  induction names generalizing o with
  | nil => contradiction
  | cons n names ih =>
    obtain ⟨fresh, distinct⟩ := List.nodup_cons.1 distinct
    rw [List.foldl_cons]
    rcases List.mem_cons.1 mem with rfl | mem
    · rw [get?_foldl_copy_of_not_mem members fresh, get?_copy, if_pos rfl]
    · have ne : n.2 ≠ key := fun same => fresh (List.mem_map.2 ⟨_, mem, same.symm⟩)
      rw [ih distinct mem, get?_copy, if_neg ne]

/-! ### One endpoint -/

/-- Whatever its form, an endpoint argument is copied like an object. -/
theorem eq_of_addEndpoint (h : addEndpoint position role arg o = .ok o₁) :
    o₁ = role.names.foldl (copy (endpointMembers arg)) o := by
  unfold addEndpoint at h
  split at h
  next => exact (Except.ok.inj h).symm
  next members => exact (Except.ok.inj h).symm
  next n => exact (Except.ok.inj h).symm
  next => contradiction

/-- An endpoint argument says nothing about the options of others. -/
theorem get?_of_addEndpoint_of_not_mem (h : addEndpoint position role arg o = .ok o₁)
    (other : key ∉ role.names.map (·.2)) : o₁.get? key = o.get? key := by
  rw [eq_of_addEndpoint h, get?_foldl_copy_of_not_mem _ other]

/-- An endpoint argument sets the port of its role if it gives one. -/
theorem get?_port_of_addEndpoint (distinct : (role.names.map (·.2)).Nodup)
    (h : addEndpoint position role arg o = .ok o₁) :
    o₁.get? role.port = (givenPort arg).or (o.get? role.port) := by
  rw [eq_of_addEndpoint h, givenPort]
  exact get?_foldl_copy_of_mem _ distinct List.mem_cons_self o

/-- A port is only filled in where none is; one that is there is an integer of 64 bits. -/
theorem fillPort_cases (h : fillPort role missing o = .ok o₁) :
    (∃ v n, o.get? role.port = some v ∧ v.int64? = some n ∧ o₁ = o) ∨
      ∃ n, o.get? role.port = none ∧ missing = .ok n ∧
        o₁ = o.insert role.port (.number (.integer n)) := by
  unfold fillPort at h
  split at h
  next v present =>
    split at h
    next n fits => exact Or.inl ⟨v, n, present, fits, (Except.ok.inj h).symm⟩
    next => contradiction
  next absent =>
    obtain ⟨n, default, h⟩ := Except.exists_of_bind_eq_ok h
    exact Or.inr ⟨n, absent, default, (Except.ok.inj h).symm⟩

theorem get?_of_fillPort_of_ne (h : fillPort role missing o = .ok o₁) (other : role.port ≠ key) :
    o₁.get? key = o.get? key := by
  rcases fillPort_cases h with ⟨_, _, _, _, rfl⟩ | ⟨n, _, _, rfl⟩
  · rfl
  · rw [OptionMap.get?_insert, if_neg other]

/-- After an endpoint its role has a port: the one that the argument gives, which is an integer of 64 bits,
or the one for a missing port. -/
theorem port_of_endpoint (distinct : (role.names.map (·.2)).Nodup) (new : o.get? role.port = none)
    (added : addEndpoint position role arg o = .ok o₁)
    (filled : fillPort role missing o₁ = .ok o₂) :
    ∃ n : Int, o₂.get? role.port = some (.number (.integer n)) ∧
      (givenPort arg = none ∧ missing = .ok n ∨
        givenPort arg = some (.number (.integer n)) ∧ (Json.number (.integer n)).int64? = some n) := by
  have given := get?_port_of_addEndpoint distinct added
  rw [new, Option.or_none] at given
  rcases fillPort_cases filled with ⟨v, n, present, fits, rfl⟩ | ⟨n, absent, default, rfl⟩
  · obtain ⟨rfl, -⟩ := ServerConfig.int64?_eq_some_iff.1 fits
    exact ⟨n, present, Or.inr ⟨given.symm.trans present, fits⟩⟩
  · refine ⟨n, ?_, Or.inl ⟨given.symm.trans absent, default⟩⟩
    rw [OptionMap.get?_insert, if_pos rfl]

/-- An endpoint leaves the options of others alone. -/
theorem get?_of_endpoint_of_not_mem (added : addEndpoint position role arg o = .ok o₁)
    (filled : fillPort role missing o₁ = .ok o₂) (other : key ∉ role.names.map (·.2)) :
    o₂.get? key = o.get? key := by
  have ne : role.port ≠ key := fun same => other (by simp [Role.names, same])
  rw [get?_of_fillPort_of_ne filled ne, get?_of_addEndpoint_of_not_mem added other]

/-- Whatever their form, extras are copied like an object. -/
theorem eq_of_addExtras (h : addExtras arg o = .ok o₁) :
    o₁ = extraNames.foldl (copy (extraMembers arg)) o := by
  unfold addExtras at h
  split at h
  next => exact (Except.ok.inj h).symm
  next members => exact (Except.ok.inj h).symm
  next s => exact (Except.ok.inj h).symm
  next => contradiction

/-- Extras say nothing about other options. -/
theorem get?_of_addExtras_of_not_mem (h : addExtras arg o = .ok o₁)
    (other : key ∉ extraNames.map (·.2)) : o₁.get? key = o.get? key := by
  rw [eq_of_addExtras h, get?_foldl_copy_of_not_mem _ other]

/-! ### Both ports -/

theorem eq_of_successor_eq_ok {n m : Int} (h : successor n = .ok m) : m = (n + 1) % 65536 := by
  unfold successor at h
  split at h
  · exact (Except.ok.inj h).symm
  · contradiction

variable {args : List (Option Json)}

theorem primaryPortOf_eq {n : Int} (present : o.get? Key.primaryPort = some (.number (.integer n)))
    (fits : (Json.number (.integer n)).int64? = some n) : primaryPortOf o = n := by
  rw [primaryPortOf, present, Option.bind_some, fits, Option.getD_some]

theorem primaryPort_of_withPrimary (h : withPrimary args = .ok o) :
    ∃ n : Int, o.get? Key.primaryPort = some (.number (.integer n)) ∧
      (Json.number (.integer n)).int64? = some n ∧ ResolvesPort (argument args 0) 3478 n ∧
      o.get? Key.alternatePort = none := by
  obtain ⟨o₁, added, filled⟩ := Except.exists_of_bind_eq_ok h
  obtain ⟨n, present, origin⟩ := port_of_endpoint (by decide) (OptionMap.get?_empty _) added filled
  have others : o.get? Key.alternatePort = none :=
    (get?_of_endpoint_of_not_mem added filled (by decide)).trans (OptionMap.get?_empty _)
  rcases origin with ⟨absent, default⟩ | ⟨given, fits⟩
  · have is : n = 3478 := (Except.ok.inj default).symm
    have fits : (Json.number (.integer n)).int64? = some n :=
      ServerConfig.int64?_eq_some_iff.2 ⟨rfl, by rw [is]; decide, by rw [is]; decide⟩
    exact ⟨n, present, fits, Or.inl ⟨absent, is⟩, others⟩
  · exact ⟨n, present, fits, Or.inr given, others⟩

/-- The options that positional arguments stand for hold two ports, each given by its argument or else the
default: the fixed one, or the successor of the primary port. -/
theorem ports_of_options (h : options args = .ok o) :
    ∃ n m : Int, ResolvesPort (argument args 0) 3478 n ∧
      ResolvesPort (argument args 1) ((n + 1) % 65536) m ∧
      o.get? Key.primaryPort = some (.number (.integer n)) ∧
      o.get? Key.alternatePort = some (.number (.integer m)) := by
  unfold options at h
  split at h
  next => contradiction
  next =>
    obtain ⟨o₁, withPrimary, h⟩ := Except.exists_of_bind_eq_ok h
    obtain ⟨o₂, withAlternate, extras⟩ := Except.exists_of_bind_eq_ok h
    obtain ⟨n, primary, fits, resolved, new⟩ := primaryPort_of_withPrimary withPrimary
    obtain ⟨o', added, filled⟩ := Except.exists_of_bind_eq_ok withAlternate
    obtain ⟨m, alternate, origin⟩ := port_of_endpoint (by decide) new added filled
    -- the alternate endpoint is added before its port is filled in, and does not touch the primary one
    have untouched : o'.get? Key.primaryPort = some (.number (.integer n)) :=
      (get?_of_addEndpoint_of_not_mem added (by decide)).trans primary
    refine ⟨n, m, resolved, ?_, ?_, ?_⟩
    · refine origin.imp (fun ⟨absent, default⟩ => ⟨absent, ?_⟩) (·.1)
      rw [primaryPortOf_eq untouched fits] at default
      exact eq_of_successor_eq_ok default
    · rw [get?_of_addExtras_of_not_mem extras (by decide),
        get?_of_endpoint_of_not_mem added filled (by decide), primary]
    · rw [get?_of_addExtras_of_not_mem extras (by decide)]
      exact alternate

end Positional

namespace ServerConfig

/-- A port that is present as a number is that number. -/
theorem NamesPort.toNat_eq {o : OptionMap} {key : String} {default port : UInt16} {n : Int}
    (h : NamesPort o key default port) (present : o.get? key = some (.number (.integer n))) :
    port.toNat = n := by
  rcases h with ⟨absent, -⟩ | named
  · rw [absent] at present
    contradiction
  · exact integer_unique named present

theorem namesPort_of_portCollision {o : OptionMap} {host : Host} {p : UInt16}
    (h : ofOptions o host = .error (.portCollision p)) :
    NamesPort o Key.primaryPort 3478 p ∧ NamesPort o Key.alternatePort 3479 p := by
  obtain ⟨_, r, _, -, -, broken⟩ := (judges_ofOptions o host).eq_error_iff.1 h
  cases broken with
  | portsDiffer primary alternate => exact ⟨primary, alternate⟩

theorem Judged.alternatePort_ne_zero {o : OptionMap} {host : Host} {c : ServerConfig}
    (h : Judged o host c) : c.alternatePort ≠ 0 :=
  readPort_ne_zero (by decide) h.alternatePort

end ServerConfig

namespace Positional

open ServerConfig

variable {args : List (Option Json)} {o : OptionMap} {host : Host}

/-- An accepted server has the ports that the arguments give; an alternate port that is left out is the next
one, and there is a next one. -/
theorem resolvesPort_of_ofOptions (h : options args = .ok o) {c : ServerConfig}
    (accepted : ofOptions o host = .ok c) :
    ResolvesPort (argument args 0) 3478 c.primaryPort.toNat ∧
      ResolvesPort (argument args 1) (c.primaryPort.toNat + 1) c.alternatePort.toNat := by
  obtain ⟨n, m, first, second, primary, alternate⟩ := ports_of_options h
  have judged := judges_ofOptions o host
  rw [accepted] at judged
  obtain ⟨-, follows⟩ := judged
  have hn := follows.primaryPort.toNat_eq primary
  have hm := follows.alternatePort.toNat_eq alternate
  have positive : c.alternatePort.toNat ≠ 0 := fun zero =>
    (judged_of_ofOptions accepted).alternatePort_ne_zero (UInt16.toNat_inj.1 zero)
  have range := c.primaryPort.toNat_lt
  rw [hn, hm]
  refine ⟨first, second.imp_left fun ⟨absent, default⟩ => ⟨absent, ?_⟩⟩
  -- a successor that wrapped around would be zero
  omega

/-- Two ports only collide if the alternate one is given. -/
theorem givenPort_of_portCollision (h : options args = .ok o) {p : UInt16}
    (collision : ofOptions o host = .error (.portCollision p)) :
    givenPort (argument args 1) = some (.number (.integer p.toNat)) ∧
      ResolvesPort (argument args 0) 3478 p.toNat := by
  obtain ⟨n, m, first, second, primary, alternate⟩ := ports_of_options h
  obtain ⟨namesPrimary, namesAlternate⟩ := namesPort_of_portCollision collision
  have hn := namesPrimary.toNat_eq primary
  have hm := namesAlternate.toNat_eq alternate
  have range := p.toNat_lt
  rw [← hn] at first
  rw [← hm] at second
  refine ⟨second.resolve_left ?_, first⟩
  -- no port is its own successor, not even modulo 65536
  rintro ⟨-, default⟩
  omega

/-- Positional arguments and the rules agree on ports. An accepted server has the primary port of argument 0
or else 3478, and the alternate port of argument 1 or else the next one, without wrapping. Ports only collide
if argument 1 gives the resolved primary port, and the last port is never accepted without an alternate
one. -/
theorem ports_follow_arguments (args : List (Option Json)) (host : Host) (o : OptionMap)
    (h : options args = .ok o) :
    (∀ c, ofOptions o host = .ok c →
      ResolvesPort (argument args 0) 3478 c.primaryPort.toNat ∧
        ResolvesPort (argument args 1) (c.primaryPort.toNat + 1) c.alternatePort.toNat) ∧
    (∀ p, ofOptions o host = .error (.portCollision p) →
      givenPort (argument args 1) = some (.number (.integer p.toNat)) ∧
        ResolvesPort (argument args 0) 3478 p.toNat) ∧
    (ResolvesPort (argument args 0) 3478 65535 → givenPort (argument args 1) = none →
      ∀ c, ofOptions o host ≠ .ok c) := by
  refine ⟨fun c => resolvesPort_of_ofOptions h, fun p => givenPort_of_portCollision h, ?_⟩
  intro last absent c accepted
  obtain ⟨primary, alternate⟩ := resolvesPort_of_ofOptions h accepted
  have range := c.alternatePort.toNat_lt
  have is : (c.primaryPort.toNat : Int) = 65535 := ResolvesPort.unique primary last
  rcases alternate with ⟨-, next⟩ | given
  · omega
  · rw [absent] at given
    contradiction

/-- The arguments of a server on port 4000 with TCP. -/
def onPort4000 : List (Option Json) := [some (.number (.integer 4000)), none, some (.string "tcp")]

/-- The arguments of a server whose alternate port is the default of the primary one. -/
def onDefaultTwice : List (Option Json) :=
  [none, some (.object [("port", .number (.integer 3478)), ("interface", .string "lo")])]

/-- The arguments of a server on the last port. -/
def onLastPort : List (Option Json) := [some (.number (.integer 65535))]

/-- One is accepted with the next port, one is told of a collision, and one is refused for port zero. -/
theorem ports_dualHomed :
    (∃ o c, options onPort4000 = .ok o ∧ ofOptions o .dualHomed = .ok c ∧
      c.primaryPort = 4000 ∧ c.alternatePort = 4001 ∧
      ResolvesPort (argument onPort4000 0) 3478 4000 ∧
      ResolvesPort (argument onPort4000 1) 4001 4001) ∧
    (∃ o, options onDefaultTwice = .ok o ∧ ofOptions o .dualHomed = .error (.portCollision 3478) ∧
      givenPort (argument onDefaultTwice 1) = some (.number (.integer 3478)) ∧
      ResolvesPort (argument onDefaultTwice 0) 3478 3478) ∧
    ∃ o, options onLastPort = .ok o ∧
      ofOptions o .dualHomed = .error (.portOutOfRange Key.alternatePort 0) ∧
      ∀ c, ofOptions o .dualHomed ≠ .ok c := by
  refine ⟨⟨_, _, rfl, rfl, rfl, rfl, ?_⟩, ⟨_, rfl, rfl, ?_⟩, ⟨_, rfl, rfl, ?_⟩⟩
  · exact (ports_follow_arguments onPort4000 .dualHomed _ rfl).1 _ rfl
  · exact (ports_follow_arguments onDefaultTwice .dualHomed _ rfl).2.1 3478 rfl
  · exact (ports_follow_arguments onLastPort .dualHomed _ rfl).2.2 (.inr rfl) rfl

end Positional
end ServerTrials
