import ServerTrials.Proofs.Server.Admissible
import ServerTrials.Proofs.Trial.Accepted
import ServerTrials.Proofs.Trial.Counts
import ServerTrials.Proofs.Trial.Rejected
import ServerTrials.Proofs.Trial.Simulated
import ServerTrials.Trial.Builtin

/-!
The built-in table expects of a server what a server does, on every host that has the interfaces which the
table names.

Both directions are about options and not about cases. An error value that no rule skips is outside the
domain of its option, whatever the other options say. And where every field is settled the options are
admissible: what a rule asks for holds wherever one of its targets is present (`Unskipped`), and no more than
that is needed for the acceptable values to go together.
-/

namespace ServerTrials.Trial.Builtin

open ServerConfig (modeOf familyOf protocolOf NamesPort NamesPrimary NamesAlternate IsText IsInteger
  Resolves Spells Admissible exists_ok_iff_admissible)

/-- The host has none of the interfaces that the table names to be refused. -/
def LacksBogus (host : Host) : Prop :=
  ∀ family, host.addressFor? family "bogus0" = none ∧ host.addressFor? family "bogus1" = none

/-- The host has the interfaces that the table names to be accepted, with different addresses in both
families, and the alternate one is not what a server takes as its primary one by default. -/
structure Suitable (host : Host) : Prop where
  named : ∀ family, ∃ lo eth0, host.addressFor? family "lo" = some lo ∧
    host.addressFor? family "eth0" = some eth0 ∧ lo ≠ eth0 ∧ (host.addresses family).head? ≠ some eth0
  bogus : LacksBogus host

theorem sound : Table.violation? fields rules = none := by decide

/-- The built-in table, found without a violation. -/
def checked : Table := ⟨fields, .ofList rules, sound⟩

theorem table_eq_ok : table = .ok checked := Table.build_of_sound sound

variable {o : OptionMap} {host : Host} {key : String} {v : Json}

/-! ### The rules in terms of a server -/

/-- What the rules for the key ask of the options. -/
structure Unskipped (o : OptionMap) (key : String) : Prop where
  full : key ∈ alternateNeedsFull.targets → modeOf o = .full
  tcp : key ∈ connectionsNeedTcp.targets → protocolOf o = .tcp
  v4 : key ∈ advertisedNeedsV4.targets → familyOf o = .v4

theorem alternateNeedsFull_holds_iff :
    alternateNeedsFull.condition.holds o = true ↔ modeOf o ≠ .full := by
  rw [alternateNeedsFull, Condition.differs_holds_iff rfl, modeOf, text]
  split <;> simp [*]

theorem connectionsNeedTcp_holds_iff :
    connectionsNeedTcp.condition.holds o = true ↔ protocolOf o ≠ .tcp := by
  rw [connectionsNeedTcp, Condition.differs_holds_iff rfl, protocolOf, text]
  split <;> simp [*]

theorem advertisedNeedsV4_holds_iff :
    advertisedNeedsV4.condition.holds o = true ↔ familyOf o ≠ .v4 := by
  rw [advertisedNeedsV4, Condition.equals_holds_iff rfl, familyOf, int]
  split <;> simp [*]

theorem not_skips_iff : ¬ checked.rules.Skips o key ↔ Unskipped o key := by
  have each : checked.rules.Skips o key ↔ alternateNeedsFull.Skips o key ∨
      connectionsNeedTcp.Skips o key ∨ advertisedNeedsV4.Skips o key := by
    simp [RuleSet.Skips, checked, RuleSet.ofList, rules]
  simp only [each, Rule.Skips, alternateNeedsFull_holds_iff, connectionsNeedTcp_holds_iff,
    advertisedNeedsV4_holds_iff, not_or, not_and, not_not]
  constructor
  · rintro ⟨full, tcp, v4⟩
    exact ⟨full, tcp, v4⟩
  · rintro ⟨full, tcp, v4⟩
    exact ⟨full, tcp, v4⟩

/-! ### Error values -/

/-- A name, an address of the other family, and a word: none is a literal of IPv4. -/
theorem not_spells_v4 : ∀ s ∈ ["stun.example.org", "::1", "nope"], IpAddress.ofText? .v4 s = none := by
  decide

/-- An error value that no rule skips keeps the options from being admissible. -/
theorem not_admissible_of_error (bogus : LacksBogus host) : ∀ f ∈ fields, ∀ v ∈ f.errors,
    o.get? f.key = some v → ¬ checked.rules.Skips o f.key → ¬ Admissible o host := by
  intro f hf v hv present kept h
  have asked := not_skips_iff.1 kept
  simp only [fields, List.mem_cons, List.not_mem_nil, or_false] at hf
  rcases hf with rfl | rfl | rfl | rfl | rfl | rfl | rfl | rfl | rfl | rfl
  · obtain ⟨s, rfl, wanted⟩ := h.protocol v present
    have hs : s = "tls" := by simpa [field, text, int] using hv
    simp [hs] at wanted
  · obtain ⟨s, rfl, wanted⟩ := h.mode v present
    have hs : s = "half" := by simpa [field, text, int] using hv
    simp [hs] at wanted
  · obtain ⟨n, rfl, wanted⟩ := h.family v present
    have hn : n = 5 := by simpa [field, text, int] using hv
    omega
  · obtain ⟨n, rfl, wanted⟩ := h.maxConnections v present
    have hn : n = 0 ∨ n = 100001 := by simpa [field, text, int] using hv
    omega
  · obtain ⟨n, rfl, wanted⟩ := h.primaryPort v present
    have hn : n = 0 ∨ n = 65536 := by simpa [field, text, int] using hv
    omega
  · obtain ⟨name, rfl, a, resolved⟩ := h.primaryInterface v present
    have hname : name = "bogus0" := by simpa [field, text, int] using hv
    rw [hname, (bogus _).1] at resolved
    contradiction
  · obtain ⟨s, rfl, a, spelled⟩ := h.primaryAdvertised v present
    have hs : s = "stun.example.org" ∨ s = "::1" := by simpa [field, text, int] using hv
    rw [asked.v4 (by decide), not_spells_v4 s (by rcases hs with rfl | rfl <;> simp)] at spelled
    contradiction
  · obtain ⟨n, rfl, wanted⟩ := h.alternatePort v present
    have hn : n = 0 ∨ n = 70000 := by simpa [field, text, int] using hv
    omega
  · obtain ⟨name, rfl, a, resolved⟩ := h.alternateInterface (asked.full (by decide)) v present
    have hname : name = "bogus1" := by simpa [field, text, int] using hv
    rw [hname, (bogus _).2] at resolved
    contradiction
  · obtain ⟨s, rfl, a, spelled⟩ := h.alternateAdvertised v present
    have hs : s = "nope" := by simpa [field, text, int] using hv
    rw [asked.v4 (by decide), not_spells_v4 s (by simp [hs])] at spelled
    contradiction

theorem optional_fields : ∀ f ∈ fields, f.optional = true := by decide

/-- The values of the table can be asked for by equality. -/
theorem plain_values : ∀ f ∈ fields, ∀ v ∈ f.acceptable ++ f.errors, v.isPlain = true := by decide

theorem not_admissible_of_holdsError {f : Field} (bogus : LacksBogus host) (hf : f ∈ fields)
    (error : f.HoldsError o) (kept : ¬ checked.rules.Skips o f.key) : ¬ Admissible o host := by
  obtain ⟨v, present, listed⟩ := error
  have plain : ∀ w ∈ f.errors, w.isPlain = true := fun w hw =>
    plain_values f hf w (List.mem_append_right _ hw)
  have mem := (Json.contains_iff_mem_of_plain plain).1 listed
  exact not_admissible_of_error bogus f hf v mem present kept

/-! ### Settled fields -/

/-- A value that a settled field has is listed as acceptable, and its rules have what they ask for. -/
theorem listed_of_settled {f : Field} (hf : f ∈ fields) (settled : checked.rules.Settled o f)
    (present : o.get? f.key = some v) : v ∈ f.acceptable ∧ Unskipped o f.key := by
  have plain : ∀ w ∈ f.acceptable, w.isPlain = true := fun w hw =>
    plain_values f hf w (List.mem_append_left _ hw)
  obtain ⟨listed, kept⟩ := settled.of_present present
  exact ⟨(Json.contains_iff_mem_of_plain plain).1 listed, not_skips_iff.1 kept⟩

theorem isText_of_mem {D : String → Prop} (texts : List String) (listed : v ∈ texts.map text)
    (inside : ∀ s ∈ texts, D s) : IsText D v := by
  obtain ⟨s, hs, rfl⟩ := List.mem_map.1 listed
  exact ⟨s, rfl, inside s hs⟩

theorem isInteger_of_mem {D : Int → Prop} (integers : List Int) (listed : v ∈ integers.map int)
    (inside : ∀ n ∈ integers, D n) : IsInteger D v := by
  obtain ⟨n, hn, rfl⟩ := List.mem_map.1 listed
  exact ⟨n, rfl, inside n hn⟩

theorem spells_primary : Spells .v4 "192.0.2.10" := ⟨.quad 192 0 2 10, by decide⟩

theorem spells_alternate : Spells .v4 "198.51.100.7" := ⟨.quad 198 51 100 7, by decide⟩

/-- A port is the default one or listed. -/
theorem mem_of_namesPort {default p : UInt16} (ports : List Int)
    (listed : ∀ v ∈ o.get? key, v ∈ ports.map int) (h : NamesPort o key default p) :
    (p.toNat : Int) ∈ (default.toNat : Int) :: ports := by
  rcases h with ⟨-, rfl⟩ | present
  · exact List.mem_cons_self
  · obtain ⟨n, hn, same⟩ := List.mem_map.1 (listed _ present)
    obtain rfl := Json.Number.integer.inj (Json.number.inj same)
    exact List.mem_cons_of_mem _ hn

/-- A suitable host keeps the two addresses apart, named or not. -/
theorem addresses_differ (suitable : Suitable host)
    (primary : ∀ v ∈ o.get? Key.primaryInterface, v = text "lo")
    (alternate : ∀ v ∈ o.get? Key.alternateInterface, v = text "eth0") :
    ∀ a, NamesPrimary o host a → ¬ NamesAlternate o host a a := by
  obtain ⟨lo, eth0, hlo, heth0, ne, notFirst⟩ := suitable.named (familyOf o)
  intro a isPrimary isAlternate
  have other : a ≠ eth0 := by
    rcases isPrimary with ⟨-, first⟩ | ⟨name, present, resolved⟩
    · rintro rfl
      exact notFirst first
    · obtain rfl := Json.string.inj (primary _ present)
      rw [hlo] at resolved
      rwa [← Option.some.inj resolved]
  rcases isAlternate with ⟨-, found⟩ | ⟨name, present, resolved⟩
  · simpa using List.find?_some found
  · obtain rfl := Json.string.inj (alternate _ present)
    rw [heth0] at resolved
    exact other (Option.some.inj resolved).symm

/-- Where every field is settled, a suitable host admits the options. -/
theorem admissible_of_settled (suitable : Suitable host)
    (settled : ∀ f ∈ fields, checked.rules.Settled o f) : Admissible o host := by
  obtain ⟨lo, eth0, hlo, heth0, ne, -⟩ := suitable.named (familyOf o)
  have listed : ∀ f ∈ fields, ∀ v ∈ o.get? f.key, v ∈ f.acceptable ∧ Unskipped o f.key :=
    fun f hf v present => listed_of_settled hf (settled f hf) present
  simp only [fields, List.forall_mem_cons] at listed
  obtain ⟨protocol, mode, family, maxConnections, primaryPort, primaryInterface, primaryAdvertised,
    alternatePort, alternateInterface, alternateAdvertised, -⟩ := listed
  exact {
    protocol := fun v present => isText_of_mem ["udp", "tcp"] (protocol v present).1 (by decide)
    mode := fun v present => isText_of_mem ["basic", "full"] (mode v present).1 (by decide)
    family := fun v present => isInteger_of_mem [4, 6] (family v present).1 (by decide)
    maxConnections := fun v present =>
      isInteger_of_mem [1, 100000] (maxConnections v present).1 (by decide)
    limitNeedsTcp := fun v present => (maxConnections v present).2.tcp (by decide)
    primaryPort := fun v present => isInteger_of_mem [3478, 3480] (primaryPort v present).1 (by decide)
    alternatePort := fun v present => isInteger_of_mem [3479, 3481] (alternatePort v present).1 (by decide)
    portsDiffer := fun p isPrimary isAlternate => by
      have hp : (p.toNat : Int) ∈ [3478, 3478, 3480] :=
        mem_of_namesPort [3478, 3480] (fun v h => (primaryPort v h).1) isPrimary
      have ha : (p.toNat : Int) ∈ [3479, 3479, 3481] :=
        mem_of_namesPort [3479, 3481] (fun v h => (alternatePort v h).1) isAlternate
      simp only [List.mem_cons, List.not_mem_nil, or_false] at hp ha
      omega
    primaryInterface := fun v present =>
      isText_of_mem ["lo"] (primaryInterface v present).1 (by simp [Resolves, hlo])
    alternateInterface := fun _ v present =>
      isText_of_mem ["eth0"] (alternateInterface v present).1 (by simp [Resolves, heth0])
    twoAddresses := fun _ =>
      ⟨lo, eth0, Host.offers_of_addressFor? hlo, Host.offers_of_addressFor? heth0, ne⟩
    addressesDiffer := fun _ => addresses_differ suitable
      (fun v present => List.mem_singleton.1 (primaryInterface v present).1)
      (fun v present => List.mem_singleton.1 (alternateInterface v present).1)
    primaryAdvertised := fun v present => by
      obtain ⟨listed, asked⟩ := primaryAdvertised v present
      rw [asked.v4 (by decide)]
      exact isText_of_mem ["192.0.2.10"] listed (by simp [spells_primary])
    alternateAdvertised := fun v present => by
      obtain ⟨listed, asked⟩ := alternateAdvertised v present
      rw [asked.v4 (by decide)]
      exact isText_of_mem ["198.51.100.7"] listed (by simp [spells_alternate])
    alternateNeedsFull := fun v present => (alternateAdvertised v present).2.full (by decide) }

/-- A host with more than the two interfaces: another one stands first, and the last one repeats an
address. -/
def crowded : Host :=
  ⟨[⟨"wan0", [.quad 203 0 113 5]⟩,
    ⟨"lo", [.quad 127 0 0 1, .ofGroups [0, 0, 0, 0, 0, 0, 0, 1]]⟩,
    ⟨"eth0", [.quad 10 0 0 2, .ofGroups [0xfd00, 0, 0, 0, 0, 0, 0, 2]]⟩,
    ⟨"eth1", [.quad 10 0 0 2]⟩]⟩

theorem suitable_crowded : Suitable crowded where
  named
    | .v4 => ⟨.quad 127 0 0 1, .quad 10 0 0 2, by decide, by decide, by decide, by decide⟩
    | .v6 => ⟨.ofGroups [0, 0, 0, 0, 0, 0, 0, 1], .ofGroups [0xfd00, 0, 0, 0, 0, 0, 0, 2],
        by decide, by decide, by decide, by decide⟩
  bogus
    | .v4 => by decide
    | .v6 => by decide

/-! ### The table against a server -/

/-- An error value of a field is decisive: unless a rule of the table skips the field on these options, they
are refused, whatever they hold for the other options and under names that no server knows. -/
theorem errors_dominate (o : OptionMap) (host : Host) (bogus : LacksBogus host) (f : Field)
    (hf : f ∈ fields) (error : f.HoldsError o) (kept : ∀ r ∈ rules, ¬ r.Skips o f.key) :
    ∃ e, ServerConfig.ofOptions o host = .error e := by
  have refused : ¬ Admissible o host :=
    not_admissible_of_holdsError bogus hf error fun ⟨r, hr, skips⟩ => kept r hr skips
  rw [← exists_ok_iff_admissible] at refused
  cases judged : ServerConfig.ofOptions o host with
  | ok config => exact absurd ⟨config, judged⟩ refused
  | error e => exact ⟨e, rfl⟩

/-- A literal of IPv6 is refused as long as the options do not ask for that family. -/
theorem errors_dominate_foreign_literal : ∃ e, ServerConfig.ofOptions
    (.ofList [("colour", .array [.null]), (Key.mode, text "full"), (Key.verbosity, text "loud"),
      (Key.primaryAdvertised, text "::1")]) crowded = .error e :=
  errors_dominate _ crowded suitable_crowded.bogus
    (field Key.primaryAdvertised [text "192.0.2.10"] [text "stun.example.org", text "::1", int 7])
    (by decide) (by decide) (by decide)

/-- A suitable host accepts a case iff the table expects it to. -/
theorem accepts_of_mem_cases (suitable : Suitable host) {c : Case} (hc : c ∈ checked.cases) :
    SimServer.accepts host c = decide (c.expected = .accept) := by
  rw [Bool.eq_iff_iff, SimServer.accepts_iff, exists_ok_iff_admissible, decide_eq_true_iff]
  cases expected : c.expected with
  | accept =>
    exact iff_of_true (admissible_of_settled suitable (Table.settled_of_accepted hc expected)) rfl
  | reject =>
    obtain ⟨f, hf, ending⟩ := Table.exists_ending_of_rejected hc expected
    obtain ⟨kept, ⟨-, error⟩ | ⟨-, required, -⟩⟩ := RuleSet.endings_pos_iff.1 ending
    · exact iff_of_false (not_admissible_of_holdsError suitable.bogus hf error kept) (by simp)
    · exact absurd (optional_fields f hf) (by simp [required])

/-! ### Trials by the table -/

/-- The table has a case to accept: all options can be left out. -/
theorem exists_accepted : ∃ c ∈ checked.cases, c.expected = .accept := by
  have accepts : checked.Accepts .empty := by decide
  obtain ⟨c, hc, expected, -⟩ := accepts.exists_case
  exact ⟨c, hc, expected⟩

/-- It has a case to reject: the first field has error values, and nothing comes before it. -/
theorem exists_rejected : ∃ c ∈ checked.cases, c.expected = .reject := by
  have split : checked.fields = [] ++ checked.fields[0] :: checked.fields.tail := rfl
  have ends : checked.StopsAt [] checked.fields[0] checked.fields.tail
      (.ofList [(Key.protocol, text "tls")]) ∧
      0 < checked.rules.endings (.errorValue Key.protocol) (.ofList [(Key.protocol, text "tls")])
        checked.fields[0] := by decide
  obtain ⟨c, hc, expected, -⟩ := (Table.exists_rejected_iff split rfl).2 ends
  exact ⟨c, hc, expected⟩

/-- A trial of a stopped server by the built-in table goes through all cases and has no failures, wherever
the host is suitable: every case passes, since the server accepts exactly those that are to be accepted. There
are some of these and some others, and the server is stopped after each that it accepts. -/
theorem run_table_of_suitable (s : SimServer) (stopped : s.running = none) (suitable : Suitable s.host) :
    ∃ t, table = .ok t ∧
      let r := (SimServer.service.run t s).1
      r.failures = [] ∧ r.accepted = r.expectedAccept ∧ r.stopCalls = r.accepted ∧
      0 < t.cases.length ∧ r.total = t.cases.length ∧ r.passed = t.cases.length ∧
      r.accepted = t.cases.countP (·.expected = .accept) ∧ 0 < r.accepted ∧
      r.rejected = t.cases.countP (·.expected = .reject) ∧ 0 < r.rejected ∧
      ∀ c ∈ t.cases, SimServer.accepts s.host c = decide (c.expected = .accept) := by
  have agree : ∀ c ∈ checked.cases, SimServer.accepts s.host c = decide (c.expected = .accept) :=
    fun c hc => accepts_of_mem_cases suitable hc
  have accepted := SimServer.accepted_of_agreement stopped agree
  have rejected := SimServer.rejected_of_agreement stopped agree
  refine ⟨checked, table_eq_ok, SimServer.failures_of_agreement stopped agree, ?_, ?_,
    checked.length_cases_pos, (SimServer.service.accountsFor_run checked s).total,
    SimServer.passed_of_agreement stopped agree, accepted, ?_, rejected, ?_, agree⟩
  · rw [accepted, SimServer.run_of_stopped stopped, Report.expectedAccept_tally]
  · rw [SimServer.stopCalls_of_stopped stopped, SimServer.accepted_of_stopped stopped]
  · rw [accepted]
    obtain ⟨c, hc, expected⟩ := exists_accepted
    exact List.countP_pos_iff.2 ⟨c, hc, decide_eq_true expected⟩
  · rw [rejected]
    obtain ⟨c, hc, expected⟩ := exists_rejected
    exact List.countP_pos_iff.2 ⟨c, hc, decide_eq_true expected⟩

/-- A server on the crowded host that has run before is met like a new one. -/
theorem run_table_of_crowded :
    ∃ t, table = .ok t ∧
      let r := (SimServer.service.run t ((SimServer.new crowded).cycled 3)).1
      r.failures = [] ∧ r.accepted = r.expectedAccept ∧ r.stopCalls = r.accepted ∧
      0 < t.cases.length ∧ r.total = t.cases.length ∧ r.passed = t.cases.length ∧
      r.accepted = t.cases.countP (·.expected = .accept) ∧ 0 < r.accepted ∧
      r.rejected = t.cases.countP (·.expected = .reject) ∧ 0 < r.rejected ∧
      ∀ c ∈ t.cases, SimServer.accepts crowded c = decide (c.expected = .accept) :=
  run_table_of_suitable ((SimServer.new crowded).cycled 3) rfl suitable_crowded

end ServerTrials.Trial.Builtin
