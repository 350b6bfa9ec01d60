import Mathlib.Data.List.Nodup
import ServerTrials.Server.Config

/-!
What an accepted configuration was read from.

Judging options stops at the first rule that is broken, so of a configuration every single rule has been
read with success: `Judged` lists them.
-/

namespace ServerTrials

theorem Except.exists_of_bind_eq_ok {ε α β : Type} {x : Except ε α} {f : α → Except ε β} {b : β}
    (h : x >>= f = .ok b) : ∃ a, x = .ok a ∧ f a = .ok b := by
  cases x with
  | error e => exact nomatch h
  | ok a => exact ⟨a, rfl, h⟩

namespace ServerConfig

/-- The configuration is what the options say on the host, rule by rule. -/
structure Judged (o : OptionMap) (host : Host) (c : ServerConfig) : Prop where
  mode : readMode o = .ok c.mode
  family : readFamily o = .ok c.family
  protocol : readProtocol o = .ok c.protocol
  maxConnections : readMaxConnections o c.protocol = .ok c.maxConnections
  primaryPort : readPrimaryPort o = .ok c.primaryPort
  alternatePort : readAlternatePort o = .ok c.alternatePort
  ports_ne : c.primaryPort ≠ c.alternatePort
  endpoints : readEndpoints o host c.mode c.family c.primaryPort c.alternatePort = .ok c.endpoints
  primaryAdvertised : readAdvertised o Key.primaryAdvertised c.family = .ok c.primaryAdvertised
  alternateAdvertised : readAlternateAdvertised o c.mode c.family = .ok c.alternateAdvertised
  verbosity : c.verbosity = readVerbosity o

variable {o : OptionMap} {host : Host} {c : ServerConfig}

theorem judged_of_ofOptions (h : ofOptions o host = .ok c) : Judged o host c := by
  obtain ⟨mode, hmode, h⟩ := Except.exists_of_bind_eq_ok h
  obtain ⟨family, hfamily, h⟩ := Except.exists_of_bind_eq_ok h
  obtain ⟨protocol, hprotocol, h⟩ := Except.exists_of_bind_eq_ok h
  obtain ⟨maxConnections, hmax, h⟩ := Except.exists_of_bind_eq_ok h
  obtain ⟨primary, hprimary, h⟩ := Except.exists_of_bind_eq_ok h
  obtain ⟨alternate, halternate, h⟩ := Except.exists_of_bind_eq_ok h
  split at h
  · simp at h
  next ne =>
    obtain ⟨endpoints, hendpoints, h⟩ := Except.exists_of_bind_eq_ok h
    obtain ⟨padv, hpadv, h⟩ := Except.exists_of_bind_eq_ok h
    obtain ⟨aadv, haadv, h⟩ := Except.exists_of_bind_eq_ok h
    obtain rfl := Except.ok.inj h
    exact ⟨hmode, hfamily, hprotocol, hmax, hprimary, halternate, ne, hendpoints, hpadv, haadv, rfl⟩

/-- A configuration that every rule says is accepted. -/
theorem ofOptions_of_judged (h : Judged o host c) : ofOptions o host = .ok c := by
  rw [ofOptions, h.mode, h.family, h.protocol]
  simp only [bind, Except.bind, h.maxConnections, h.primaryPort, h.alternatePort, if_neg h.ports_ne,
    h.endpoints, h.primaryAdvertised, h.alternateAdvertised, ← h.verbosity]

/-- A primary port that is no port is the answer if the rules before it hold. -/
theorem ofOptions_of_readPrimaryPort {mode : Mode} {family : Family} {protocol : Protocol}
    {max : Option Nat} {e : ConfigError} (hmode : readMode o = .ok mode)
    (hfamily : readFamily o = .ok family) (hprotocol : readProtocol o = .ok protocol)
    (hmax : readMaxConnections o protocol = .ok max) (h : readPrimaryPort o = .error e) :
    ofOptions o host = .error e := by
  rw [ofOptions, hmode, hfamily, hprotocol]
  simp only [bind, Except.bind, hmax, h]

/-! ### Ports -/

theorem toUInt16_ne_zero {n : Nat} (pos : 0 < n) (lt : n < 65536) : n.toUInt16 ≠ 0 := fun h => by
  have := congrArg UInt16.toNat h
  rw [Nat.toUInt16_eq, UInt16.toNat_ofNat_of_lt' lt] at this
  exact absurd this (Nat.pos_iff_ne_zero.1 pos)

theorem readPort_ne_zero {key : String} {default port : UInt16} (hd : default ≠ 0)
    (h : readPort o key default = .ok port) : port ≠ 0 := by
  obtain ⟨n?, -, h⟩ := Except.exists_of_bind_eq_ok h
  cases n? with
  | none => exact Except.ok.inj h ▸ hd
  | some n =>
    dsimp only at h
    split at h
    next range =>
      obtain rfl := Except.ok.inj h
      exact toUInt16_ne_zero (by omega) (by omega)
    · simp at h

/-- An accepted server holds different ports, and never port zero. -/
theorem Judged.boundPorts (h : Judged o host c) : c.boundPorts.Nodup ∧ 0 ∉ c.boundPorts := by
  have primary : c.primaryPort ≠ 0 := readPort_ne_zero (by decide) h.primaryPort
  have alternate : c.alternatePort ≠ 0 := readPort_ne_zero (by decide) h.alternatePort
  rw [ServerConfig.boundPorts]
  cases c.mode with
  | basic => simp [primary.symm]
  | full => simp [h.ports_ne, primary.symm, alternate.symm]

end ServerConfig
end ServerTrials
