import ServerTrials.Proofs.Server.Judging

/-!
Options on a host that gets further interfaces.

An answer can hang on the host in two ways: an interface has an address or is reported missing, and there
is a second address or there are too few. New interfaces come after the old ones, so what was found is found
again, and in the same place. `Outlasts` says that one answer is as the other was unless that one reported
something missing; it passes through a judgement step by step (`Outlasts.bind`).
-/

namespace ServerTrials

/-- The error says that the host lacks an address that is asked for. -/
def ConfigError.LacksAddress : ConfigError → Prop
  | .interfaceNotFound _ _ => True
  | .insufficientAddresses _ => True
  | _ => False

namespace ServerConfig

variable {α β : Type} {o : OptionMap} {host : Host} {more : List Interface} {family : Family}

/-- What was answered is answered again, unless it was that the host lacks an address. -/
def Outlasts : (before after : Except ConfigError α) → Prop
  | .ok v, after => after = .ok v
  | .error e, after => e.LacksAddress ∨ after = .error e

namespace Outlasts

variable {x y : Except ConfigError α} {f g : α → Except ConfigError β}

theorem refl (x : Except ConfigError α) : Outlasts x x := by
  cases x with
  | ok v => rfl
  | error e => exact Or.inr rfl

theorem of_lacksAddress {e : ConfigError} (h : e.LacksAddress) : Outlasts (.error e) y := Or.inl h

/-- Steps that outlast do so one after the other. -/
theorem bind (h : Outlasts x y) (next : ∀ v, Outlasts (f v) (g v)) : Outlasts (x >>= f) (y >>= g) := by
  cases x with
  | ok v =>
    obtain rfl : y = .ok v := h
    exact next v
  | error e =>
    rcases h with lacks | rfl
    · exact Or.inl lacks
    · exact Or.inr rfl

end Outlasts

/-! ### One interface -/

theorem outlasts_readInterface {key : String} {unnamed unnamed' : Except ConfigError IpAddress}
    (h : Outlasts unnamed unnamed') :
    Outlasts (readInterface o host family key unnamed)
      (readInterface o (host.extend more) family key unnamed') := by
  refine (Outlasts.refl (o.string? key)).bind fun name? => ?_
  cases name? with
  | none => exact h
  | some name =>
    dsimp only
    cases found : host.addressFor? family name with
    | none => exact .of_lacksAddress trivial
    | some a =>
      rw [Host.addressFor?_extend found more]
      exact .refl _

/-! ### The endpoints -/

theorem outlasts_fullEndpoints (primary alternate : UInt16) :
    Outlasts (fullEndpoints o host family primary alternate)
      (fullEndpoints o (host.extend more) family primary alternate) := by
  obtain ⟨later, extended⟩ := host.exists_addresses_extend more family
  unfold fullEndpoints
  rw [extended]
  match host.addresses family with
  | [] => exact .of_lacksAddress trivial
  | [_] => exact .of_lacksAddress trivial
  | first :: second :: others =>
    dsimp only [List.cons_append]
    refine (outlasts_readInterface (.refl _)).bind fun p => ?_
    refine Outlasts.bind (outlasts_readInterface ?_) fun a => .refl _
    -- the first address beside the primary one stays the first
    rw [← List.cons_append, ← List.cons_append, List.find?_append]
    cases (first :: second :: others).find? (· != p) with
    | none => exact .of_lacksAddress trivial
    | some a => exact .refl _

theorem outlasts_readEndpoints (mode : Mode) (primary alternate : UInt16) :
    Outlasts (readEndpoints o host mode family primary alternate)
      (readEndpoints o (host.extend more) mode family primary alternate) := by
  cases mode with
  | basic => exact (outlasts_readInterface (.refl _)).bind fun a => .refl _
  | full => exact outlasts_fullEndpoints primary alternate

/-! ### The configuration -/

/-- The endpoints are the only part of a judgement that asks the host. -/
theorem outlasts_ofOptions (o : OptionMap) (host : Host) (more : List Interface) :
    Outlasts (ofOptions o host) (ofOptions o (host.extend more)) := by
  refine (Outlasts.refl (readMode o)).bind fun mode => ?_
  refine (Outlasts.refl (readFamily o)).bind fun family => ?_
  refine (Outlasts.refl (readProtocol o)).bind fun protocol => ?_
  refine (Outlasts.refl (readMaxConnections o protocol)).bind fun limit => ?_
  refine (Outlasts.refl (readPrimaryPort o)).bind fun primary => ?_
  refine (Outlasts.refl (readAlternatePort o)).bind fun alternate => ?_
  by_cases same : primary = alternate
  · simp only [if_pos same]
    exact .refl _
  · simp only [if_neg same]
    exact (outlasts_readEndpoints mode primary alternate).bind fun endpoints => .refl _

/-- A host that gets further interfaces after its own, under whatever names and with whatever addresses,
accepts what it accepted and with the same configuration. What it refused for another reason than a missing
address it refuses for the same reason. -/
theorem ofOptions_extend (o : OptionMap) (host : Host) (more : List Interface) :
    (∀ c, ofOptions o host = .ok c → ofOptions o (host.extend more) = .ok c) ∧
    ∀ e, ofOptions o host = .error e → ¬ e.LacksAddress →
      ofOptions o (host.extend more) = .error e := by
  have outlasts := outlasts_ofOptions o host more
  constructor
  · intro c accepted
    rw [accepted] at outlasts
    exact outlasts
  · intro e refused other
    rw [refused] at outlasts
    exact outlasts.resolve_left other

/-- Interfaces under the names of the host with two, each with another address. -/
def namesakes : List Interface := [⟨"eth0", [.quad 10 0 0 9]⟩, ⟨"lo", [.quad 127 0 0 9]⟩]

/-- Namesakes change neither the endpoints of a full server nor the reason for which one is refused. -/
theorem ofOptions_extend_namesakes :
    (∃ c, ofOptions behindRouter .dualHomed = .ok c ∧
      ofOptions behindRouter (Host.dualHomed.extend namesakes) = .ok c) ∧
    ofOptions twiceLoopback .dualHomed = .error (.sameAddress (.quad 127 0 0 1)) ∧
    ofOptions twiceLoopback (Host.dualHomed.extend namesakes)
      = .error (.sameAddress (.quad 127 0 0 1)) := by
  have accepted : ∃ c, ofOptions behindRouter .dualHomed = .ok c := ⟨_, rfl⟩
  have refused : ofOptions twiceLoopback .dualHomed = .error (.sameAddress (.quad 127 0 0 1)) := rfl
  obtain ⟨c, hc⟩ := accepted
  refine ⟨⟨c, hc, (ofOptions_extend behindRouter .dualHomed namesakes).1 c hc⟩, refused, ?_⟩
  exact (ofOptions_extend twiceLoopback .dualHomed namesakes).2 _ refused (by simp [ConfigError.LacksAddress])

end ServerConfig
end ServerTrials
