import ServerTrials.Proofs.Server.Violations

/-!
Judging options is checking rules in their order.

`Judges o host rules P x` says of an answer `x` that the rules were checked one after another: either all are
kept and `P` holds of the value, or `x` is the error of the first rule that is violated. Answers compose like
the lists of their rules (`Judges.bind`), so each reader has one lemma that names its rules and its value, and
the whole judgement is these in a row.
-/

namespace ServerTrials.ServerConfig

variable {o : OptionMap} {host : Host} {α β : Type}

/-- The answer is the error of the first violated rule, or if there is none, a value with that property. -/
def Judges (o : OptionMap) (host : Host) (rules : List Rule) (P : α → Prop) :
    Except ConfigError α → Prop
  | .ok v => (∀ r ∈ rules, Keeps o host r) ∧ P v
  | .error e => FirstViolated o host rules e

namespace Judges

variable {r : Rule} {rules later : List Rule} {P : α → Prop} {Q : β → Prop} {x : Except ConfigError α}
  {f : α → Except ConfigError β} {e : ConfigError}

/-- A rule that is kept is passed by. -/
theorem cons (kept : Keeps o host r) (h : Judges o host rules P x) : Judges o host (r :: rules) P x := by
  cases x with
  | ok v => exact ⟨List.forall_mem_cons.2 ⟨kept, h.1⟩, h.2⟩
  | error e =>
    obtain ⟨before, q, after, rfl, keptBefore, broken⟩ := h
    exact ⟨r :: before, q, after, rfl, List.forall_mem_cons.2 ⟨kept, keptBefore⟩, broken⟩

/-- Rules that are kept are passed by. -/
theorem append (h : Judges o host later P x) (kept : ∀ r ∈ rules, Keeps o host r) :
    Judges o host (rules ++ later) P x := by
  induction rules with
  | nil => exact h
  | cons r rules ih =>
    obtain ⟨first, others⟩ := List.forall_mem_cons.1 kept
    exact (ih others).cons first

/-- A rule that is known to be kept need not be checked. -/
theorem of_cons (h : Judges o host (r :: rules) P x) (kept : Keeps o host r) :
    Judges o host rules P x := by
  cases x with
  | ok v => exact ⟨(List.forall_mem_cons.1 h.1).2, h.2⟩
  | error e =>
    obtain ⟨before, q, after, split, keptBefore, broken⟩ := h
    cases before with
    | nil =>
      obtain rfl := (List.cons.inj split).1
      exact absurd broken (kept e)
    | cons _ before =>
      exact ⟨before, q, after, (List.cons.inj split).2, (List.forall_mem_cons.1 keptBefore).2, broken⟩

/-- A rule that is violated ends the judgement. -/
theorem violated (h : Violates o host r e) : Judges o host (r :: rules) P (.error e) :=
  ⟨[], r, rules, rfl, fun _ hq => absurd hq List.not_mem_nil, h⟩

theorem done {v : α} (h : P v) : Judges o host [] P (.ok v) :=
  ⟨fun _ hq => absurd hq List.not_mem_nil, h⟩

/-- A value that is one of two kinds keeps the rule that says so, and any other breaks it. -/
theorem oneOf {σ : Type} [DecidableEq σ] {s a b : σ} {u v w : α}
    (first : s = a → Keeps o host r ∧ v = u) (second : s = b → Keeps o host r ∧ w = u)
    (other : s ≠ a → s ≠ b → Violates o host r e) :
    Judges o host [r] (· = u) (if s = a then .ok v else if s = b then .ok w else .error e) := by
  split
  next ha =>
    obtain ⟨kept, hv⟩ := first ha
    exact .cons kept (.done hv)
  next ha =>
    split
    next hb =>
      obtain ⟨kept, hw⟩ := second hb
      exact .cons kept (.done hw)
    next hb => exact .violated (other ha hb)

/-- One judgement after another checks the rules of both. -/
theorem bind (h : Judges o host rules P x) (next : ∀ v, P v → Judges o host later Q (f v)) :
    Judges o host (rules ++ later) Q (x >>= f) := by
  cases x with
  | ok v =>
    obtain ⟨kept, hv⟩ := h
    exact (next v hv).append kept
  | error e =>
    obtain ⟨before, q, after, rfl, kept, broken⟩ := h
    exact ⟨before, q, after ++ later, by simp, kept, broken⟩

/-- A value is answered iff all rules are kept. -/
theorem exists_ok_iff (h : Judges o host rules P x) :
    (∃ v, x = .ok v) ↔ ∀ r ∈ rules, Keeps o host r := by
  cases x with
  | ok v => exact ⟨fun _ => h.1, fun _ => ⟨v, rfl⟩⟩
  | error e =>
    obtain ⟨before, r, after, rfl, -, broken⟩ := h
    constructor
    · rintro ⟨v, hv⟩
      contradiction
    · intro kept
      exact absurd broken (kept r (by simp) e)

/-- An error is answered iff it is that of the first violated rule. -/
theorem eq_error_iff (h : Judges o host rules P x) : x = .error e ↔ FirstViolated o host rules e := by
  constructor
  · rintro rfl
    exact h
  · intro first
    cases x with
    | ok v =>
      obtain ⟨before, r, after, rfl, -, broken⟩ := first
      exact absurd broken (h.1 r (by simp) e)
    | error e' => rw [FirstViolated.error_unique h first]

end Judges

/-! ### Typed options -/

theorem judges_string? (key : String) :
    Judges o host [.isString key] (fun s? => o.get? key = s?.map Json.string) (o.string? key) := by
  rw [OptionMap.string?]
  cases h : o.get? key with
  | none => exact .cons (keeps_of_absent rfl h) (.done rfl)
  | some v =>
    cases v with
    | string s => exact .cons (keeps_isString h) (.done rfl)
    | _ => exact .violated (.isString h (by simp))

theorem int64?_eq_some_iff {v : Json} {n : Int} :
    v.int64? = some n ↔ v = .number (.integer n) ∧ Json.minInt64 ≤ n ∧ n < Json.int64Bound := by
  unfold Json.int64?
  split
  next m =>
    rw [Option.ite_none_right_eq_some]
    simp only [Option.some.injEq, Json.number.injEq, Json.Number.integer.injEq]
    omega
  next other =>
    simp only [reduceCtorEq, false_iff]
    rintro ⟨rfl, -⟩
    exact other n rfl

theorem judges_integer? (key : String) :
    Judges o host [.isInteger key] (fun n? => o.get? key = n?.map fun n => .number (.integer n))
      (o.integer? key) := by
  rw [OptionMap.integer?]
  cases h : o.get? key with
  | none => exact .cons (keeps_of_absent rfl h) (.done rfl)
  | some v =>
    dsimp only
    cases hv : v.int64? with
    | some n =>
      obtain ⟨rfl, lower, upper⟩ := int64?_eq_some_iff.1 hv
      refine .cons ?_ (.done rfl)
      intro e broken
      cases broken with
      | isInteger present other =>
        have out := other n (Option.some.inj (present.symm.trans h))
        omega
    | none =>
      refine .violated (.isInteger h fun n hn => ?_)
      by_contra inside
      rw [int64?_eq_some_iff.2 ⟨hn, by omega, by omega⟩] at hv
      contradiction

/-! ### The connections -/

theorem judges_readMode : Judges o host [.isString Key.mode, .knownMode] (· = modeOf o) (readMode o) := by
  refine (judges_string? Key.mode).bind fun s? h => ?_
  cases s? with
  | none =>
    refine .cons (keeps_of_absent rfl h) (.done ?_)
    rw [modeOf, if_neg (by simp [h])]
  | some s =>
    refine .oneOf ?_ ?_ (.knownMode h)
    · rintro rfl
      refine ⟨fun e broken => ?_, by rw [modeOf, if_neg (by simp [h])]⟩
      cases broken with
      | knownMode present basic => exact basic (string_unique present h)
    · rintro rfl
      refine ⟨fun e broken => ?_, (if_pos h).symm⟩
      cases broken with
      | knownMode present _ full => exact full (string_unique present h)

theorem judges_readFamily :
    Judges o host [.isInteger Key.family, .knownFamily] (· = familyOf o) (readFamily o) := by
  refine (judges_integer? Key.family).bind fun n? h => ?_
  cases n? with
  | none =>
    refine .cons (keeps_of_absent rfl h) (.done ?_)
    rw [familyOf, if_neg (by simp [h])]
  | some n =>
    refine .oneOf ?_ ?_ (.knownFamily h)
    · rintro rfl
      refine ⟨fun e broken => ?_, by rw [familyOf, if_neg (by simp [h])]⟩
      cases broken with
      | knownFamily present v4 => exact v4 (integer_unique present h)
    · rintro rfl
      refine ⟨fun e broken => ?_, (if_pos h).symm⟩
      cases broken with
      | knownFamily present _ v6 => exact v6 (integer_unique present h)

theorem judges_readProtocol :
    Judges o host [.isString Key.protocol, .knownProtocol] (· = protocolOf o) (readProtocol o) := by
  refine (judges_string? Key.protocol).bind fun s? h => ?_
  cases s? with
  | none =>
    refine .cons (keeps_of_absent rfl h) (.done ?_)
    rw [protocolOf, if_neg (by simp [h])]
  | some s =>
    refine .oneOf ?_ ?_ (.knownProtocol h)
    · rintro rfl
      refine ⟨fun e broken => ?_, by rw [protocolOf, if_neg (by simp [h])]⟩
      cases broken with
      | knownProtocol present udp => exact udp (string_unique present h)
    · rintro rfl
      refine ⟨fun e broken => ?_, (if_pos h).symm⟩
      cases broken with
      | knownProtocol present _ tcp => exact tcp (string_unique present h)

theorem judges_readMaxConnections :
    Judges o host [.isInteger Key.maxConnections, .limitNeedsTcp, .limitInRange]
      (fun max? => o.get? Key.maxConnections = max?.map fun n : Nat => .number (.integer n))
      (readMaxConnections o (protocolOf o)) := by
  refine (judges_integer? Key.maxConnections).bind fun n? h => ?_
  cases n? with
  | none => exact .cons (keeps_of_absent rfl h) (.cons (keeps_of_absent rfl h) (.done h))
  | some n =>
    dsimp only
    split
    next other => exact .violated (.limitNeedsTcp h other)
    next tcp =>
      refine .cons (fun e broken => ?_) ?_
      · cases broken with
        | limitNeedsTcp _ other => exact tcp other
      split
      next range =>
        have limit : connectionsLimit = 100000 := rfl
        refine .cons (fun e broken => ?_) (.done ?_)
        · cases broken with
          | limitInRange present out =>
            rw [integer_unique present h] at out
            omega
        · rw [h, Option.map_some, Option.map_some, Int.toNat_of_nonneg (by omega)]
      next out =>
        have limit : connectionsLimit = 100000 := rfl
        exact .violated (.limitInRange h (by omega))

/-! ### The ports -/

theorem judges_readPort (key : String) (default : UInt16) :
    Judges o host [.isInteger key, .portInRange key] (NamesPort o key default)
      (readPort o key default) := by
  refine (judges_integer? key).bind fun n? h => ?_
  cases n? with
  | none => exact .cons (keeps_of_absent rfl h) (.done (Or.inl ⟨h, rfl⟩))
  | some n =>
    dsimp only
    split
    next range =>
      refine .cons (fun e broken => ?_) (.done (Or.inr ?_))
      · cases broken with
        | portInRange present out =>
          rw [integer_unique present h] at out
          omega
      · have lt : n.toNat < 65536 := by omega
        rw [h, Nat.toUInt16_eq, UInt16.toNat_ofNat_of_lt' lt, Int.toNat_of_nonneg (by omega)]
        rfl
    next out => exact .violated (.portInRange h (by omega))

/-! ### The endpoints -/

theorem judges_readInterface (key : String) (unnamed : IpAddress) :
    Judges o host [.isString key, .resolves key] (NamesAddress o host key (some unnamed))
      (readInterface o host (familyOf o) key (.ok unnamed)) := by
  refine (judges_string? key).bind fun s? h => ?_
  cases s? with
  | none => exact .cons (keeps_of_absent rfl h) (.done (Or.inl ⟨h, rfl⟩))
  | some name =>
    dsimp only
    cases found : host.addressFor? (familyOf o) name with
    | none => exact .violated (.resolves h found)
    | some a =>
      refine .cons (fun e broken => ?_) (.done (Or.inr ⟨name, h, found⟩))
      cases broken with
      | resolves present missing =>
        rw [string_unique present h, found] at missing
        contradiction

theorem judges_basicEndpoints (primary alternate : UInt16) :
    Judges o host (Rule.ofEndpoints .basic) (NamesEndpoints o host primary alternate .basic)
      (basicEndpoints o host (familyOf o) primary) :=
  (judges_readInterface Key.primaryInterface (.unspecified (familyOf o))).bind fun a ha =>
    .done ⟨a, ha, rfl⟩

theorem judges_fullEndpoints (primary alternate : UInt16) :
    Judges o host (Rule.ofEndpoints .full) (NamesEndpoints o host primary alternate .full)
      (fullEndpoints o host (familyOf o) primary alternate) := by
  have nodup := host.nodup_addresses (familyOf o)
  unfold fullEndpoints
  split
  next first second more hs =>
    rw [hs] at nodup
    refine .cons (fun e broken => ?_) ?_
    · cases broken with
      | twoAddresses atMostOne =>
        have few := Host.length_addresses_lt_two_iff.2 atMostOne
        rw [hs, List.length_cons, List.length_cons] at few
        omega
    refine (judges_readInterface Key.primaryInterface first).bind fun p hp => ?_
    -- the default of the alternate interface is never missing here
    obtain ⟨q, found⟩ := Host.exists_find?_ne nodup p
    rw [found]
    refine (judges_readInterface Key.alternateInterface q).bind fun a ha => ?_
    have primaryNamed : NamesPrimary o host p := by rwa [NamesPrimary, hs]
    have alternateNamed : NamesAlternate o host p a := by rwa [NamesAlternate, hs, found]
    split
    next same =>
      subst same
      exact .violated (.addressesDiffer primaryNamed alternateNamed)
    next differ =>
      refine .cons (fun e broken => ?_) (.done ⟨p, a, primaryNamed, alternateNamed, rfl⟩)
      cases broken with
      | addressesDiffer both alternateToo =>
        obtain rfl := NamesAddress.unique both primaryNamed
        exact differ (NamesAddress.unique alternateToo alternateNamed)
  next few =>
    refine .violated (.twoAddresses (Host.length_addresses_lt_two_iff.1 ?_))
    match hs : host.addresses (familyOf o) with
    | [] => simp
    | [x] => simp
    | x :: y :: more => exact absurd hs (few x y more)

theorem judges_readEndpoints (mode : Mode) (primary alternate : UInt16) :
    Judges o host (Rule.ofEndpoints mode) (NamesEndpoints o host primary alternate mode)
      (readEndpoints o host mode (familyOf o) primary alternate) :=
  match mode with
  | .basic => judges_basicEndpoints primary alternate
  | .full => judges_fullEndpoints primary alternate

/-! ### The addresses that clients are told -/

theorem judges_readAdvertised (key : String) :
    Judges o host [.isString key, .isAddress key] (NamesAdvertised o key)
      (readAdvertised o key (familyOf o)) := by
  refine (judges_string? key).bind fun s? h => ?_
  cases s? with
  | none => exact .cons (keeps_of_absent rfl h) (.done (Or.inl ⟨h, rfl⟩))
  | some s =>
    dsimp only
    cases spelled : IpAddress.ofText? (familyOf o) s with
    | none => exact .violated (.isAddress h spelled)
    | some a =>
      refine .cons (fun e broken => ?_) (.done (Or.inr ⟨s, a, h, spelled, rfl⟩))
      cases broken with
      | isAddress present other =>
        rw [string_unique present h, spelled] at other
        contradiction

theorem judges_readAlternateAdvertised :
    Judges o host [.isString Key.alternateAdvertised, .alternateNeedsFull, .isAddress Key.alternateAdvertised]
      (NamesAdvertised o Key.alternateAdvertised) (readAlternateAdvertised o (modeOf o) (familyOf o)) := by
  refine (judges_string? Key.alternateAdvertised).bind fun s? h => ?_
  cases s? with
  | none =>
    exact .cons (keeps_of_absent rfl h) (.cons (keeps_of_absent rfl h) (.done (Or.inl ⟨h, rfl⟩)))
  | some s =>
    dsimp only
    split
    next full =>
      refine .cons (fun e broken => ?_) ?_
      · cases broken with
        | alternateNeedsFull _ basic =>
          rw [full] at basic
          contradiction
      -- it is read once more here, now as an address
      exact (judges_readAdvertised Key.alternateAdvertised).of_cons (keeps_isString h)
    next notFull =>
      refine .violated (.alternateNeedsFull h ?_)
      cases mode : modeOf o with
      | basic => rfl
      | full => exact absurd mode notFull

/-! ### The configuration -/

/-- Options are judged by all rules in their order, and what is accepted is what they say. -/
theorem judges_ofOptions (o : OptionMap) (host : Host) :
    Judges o host (Rule.inOrder (modeOf o)) (Follows o host) (ofOptions o host) := by
  refine judges_readMode.bind ?_
  rintro mode rfl
  refine judges_readFamily.bind ?_
  rintro family rfl
  refine judges_readProtocol.bind ?_
  rintro protocol rfl
  refine judges_readMaxConnections.bind fun max? maxConnections => ?_
  refine (judges_readPort Key.primaryPort 3478).bind fun p primary => ?_
  refine (judges_readPort Key.alternatePort 3479).bind fun a alternate => ?_
  split
  next same =>
    subst same
    exact .violated (.portsDiffer primary alternate)
  next differ =>
    refine .cons (fun e broken => ?_) ?_
    · cases broken with
      | portsDiffer both alternateToo =>
        obtain rfl := both.unique primary
        exact differ (alternateToo.unique alternate)
    refine (judges_readEndpoints (modeOf o) p a).bind fun es endpoints => ?_
    refine (judges_readAdvertised Key.primaryAdvertised).bind fun pAdv primaryAdvertised => ?_
    refine judges_readAlternateAdvertised.bind fun aAdv alternateAdvertised => ?_
    exact .done ⟨rfl, rfl, rfl, maxConnections, primary, alternate, endpoints, primaryAdvertised,
      alternateAdvertised, rfl⟩

/-- The rules decide. Options are accepted iff they keep every rule of their mode; otherwise the answer is
the error of the first one that they break. What is accepted is what the options say, the defaults
included, and two addresses can be the same only if an alternate interface is named. -/
theorem ofOptions_decides (o : OptionMap) (host : Host) :
    ((∃ c, ofOptions o host = .ok c) ↔ ∀ r ∈ Rule.inOrder (modeOf o), Keeps o host r) ∧
    (∀ e, ofOptions o host = .error e ↔ FirstViolated o host (Rule.inOrder (modeOf o)) e) ∧
    (∀ c, ofOptions o host = .ok c → Follows o host c) ∧
    ∀ e, Violates o host .addressesDiffer e →
      ∃ name, o.get? Key.alternateInterface = some (.string name) := by
  have judges := judges_ofOptions o host
  refine ⟨judges.exists_ok_iff, fun e => judges.eq_error_iff, fun c accepted => ?_,
    fun e => named_of_violates_addressesDiffer⟩
  rw [accepted] at judges
  exact judges.2

/-- A full server on the loopback interface, which is also its default for the primary one. -/
def twiceLoopback : OptionMap :=
  .ofList [(Key.mode, .string "full"), (Key.alternateInterface, .string "lo")]

/-- A full server that tells its clients another address. -/
def behindRouter : OptionMap :=
  .ofList [(Key.mode, .string "full"), (Key.primaryAdvertised, .string "192.0.2.1")]

/-- One is refused for its addresses, the other accepted with all rules kept. -/
theorem ofOptions_dualHomed :
    FirstViolated twiceLoopback .dualHomed (Rule.inOrder .full) (.sameAddress (.quad 127 0 0 1)) ∧
    (∀ r ∈ Rule.inOrder .full, Keeps behindRouter .dualHomed r) ∧
    ∃ c, ofOptions behindRouter .dualHomed = .ok c ∧ Follows behindRouter .dualHomed c := by
  obtain ⟨-, refused, -, -⟩ := ofOptions_decides twiceLoopback .dualHomed
  obtain ⟨accepted, -, follows, -⟩ := ofOptions_decides behindRouter .dualHomed
  have full : modeOf twiceLoopback = .full := by decide +kernel
  have full' : modeOf behindRouter = .full := by decide +kernel
  have same : ofOptions twiceLoopback .dualHomed = .error (.sameAddress (.quad 127 0 0 1)) := by
    rfl
  have one : ∃ c, ofOptions behindRouter .dualHomed = .ok c := ⟨_, rfl⟩
  rw [full] at refused
  rw [full'] at accepted
  obtain ⟨c, hc⟩ := one
  exact ⟨(refused _).1 same, accepted.1 ⟨c, hc⟩, c, hc, follows c hc⟩

end ServerTrials.ServerConfig
