import ServerTrials.Command.FleetCommand
import ServerTrials.Proofs.Fleet.Allocation
import ServerTrials.Proofs.Text.Numerals

/-!
The settings that variables give.

Three settings are numbers. Each has a variable: its names, the first number that is too large for it, and
what counts if it is not set. An older name is read only if the newer one is not set at all (`Reads`), and
the text that is read spells a number of the variable or does not: a variable is fine or wrong. What the
settings are (`Holds`) and why there are none (`Refused`) is said by these conditions and the bound on the
ports, of which always one or the other applies (`refused_or_holds`). Reading the variables answers either
way what they say.
-/

namespace ServerTrials.Fleet

/-- A variable that gives a number. -/
structure Variable where
  newer : String
  older? : Option String
  bound : Nat
  default : Nat
  deriving DecidableEq

namespace Variable

/-- How many instances there are. -/
def instanceCount : Variable := ⟨"STUN_NUMBER", some "stun_number", 2 ^ 64, 5⟩

/-- The port of the first instance. -/
def basePort : Variable := ⟨"STUN_BASEPORT", some "baseport", 2 ^ 16, 3000⟩

/-- How many milliseconds a probe may take. -/
def probeTimeout : Variable := ⟨"STUN_PROBE_TIMEOUT_MS", none, 2 ^ 64, 10000⟩

/-- All variables, in the order in which they are read. -/
def all : List Variable := [instanceCount, basePort, probeTimeout]

theorem forall_mem_all_iff {P : Variable → Prop} :
    (∀ v ∈ all, P v) ↔ P instanceCount ∧ P basePort ∧ P probeTimeout := by
  simp only [all, List.forall_mem_cons, List.not_mem_nil, false_imp_iff, implies_true, and_true]

variable {v : Variable} {lookup lookup' : String → Option String} {name text : String} {n : Nat}
  {e : SettingsError}

/-- The text is read under that name: the newer name if it is set, or else the older one. -/
inductive Reads (v : Variable) (lookup : String → Option String) : String → String → Prop where
  | newer {text : String} (set : lookup v.newer = some text) : Reads v lookup v.newer text
  | older {name text : String} (unset : lookup v.newer = none) (other : v.older? = some name)
    (set : lookup name = some text) : Reads v lookup name text

/-- No name of the variable is set. -/
def Unset (v : Variable) (lookup : String → Option String) : Prop :=
  lookup v.newer = none ∧ ∀ name, v.older? = some name → lookup name = none

/-- The number is the one that the text spells, or the default if there is no text. -/
inductive Gives (v : Variable) (lookup : String → Option String) : Nat → Prop where
  | unset (h : v.Unset lookup) : Gives v lookup v.default
  | read {name text : String} {n : Nat} (reads : v.Reads lookup name text) (spells : Text.Spells text n)
    (small : n < v.bound) : Gives v lookup n

/-- The text spells no number of the variable, which is told by the error. -/
inductive Wrong (v : Variable) (lookup : String → Option String) : SettingsError → Prop where
  | malformed {name text : String} (reads : v.Reads lookup name text)
    (other : ∀ n, Text.Spells text n → v.bound ≤ n) : Wrong v lookup (.invalidInteger name text)

/-- The text, if there is one, spells a number of the variable. -/
def Fine (v : Variable) (lookup : String → Option String) : Prop :=
  ∀ name text, v.Reads lookup name text → ∃ n, Text.Spells text n ∧ n < v.bound

/-! ### What is read -/

/-- The names of the variable, the newer first. -/
def names (v : Variable) : List String := v.newer :: v.older?.toList

theorem effective?_of_newer (set : lookup v.newer = some text) :
    Settings.effective? lookup v.names = some (v.newer, text) := by
  rw [Settings.effective?, names, List.findSome?_cons, set]
  rfl

theorem effective?_of_unset (unset : lookup v.newer = none) : Settings.effective? lookup v.names =
    v.older?.bind fun name => (lookup name).map fun text => (name, text) := by
  rw [Settings.effective?, names, List.findSome?_cons, unset]
  cases v.older? with
  | none => rfl
  | some name => rw [Option.toList_some, List.findSome?_singleton]; rfl

theorem effective?_of_reads (h : v.Reads lookup name text) :
    Settings.effective? lookup v.names = some (name, text) := by
  cases h with
  | newer set => exact effective?_of_newer set
  | older unset other set =>
    rw [effective?_of_unset unset, other, Option.bind_some, set]
    rfl

theorem effective?_of_unset_names (h : v.Unset lookup) : Settings.effective? lookup v.names = none := by
  rw [effective?_of_unset h.1]
  cases other : v.older? with
  | none => rfl
  | some name => rw [Option.bind_some, h.2 name other]; rfl

theorem reads_or_unset (v : Variable) (lookup : String → Option String) :
    (∃ name text, v.Reads lookup name text) ∨ v.Unset lookup := by
  cases newer : lookup v.newer with
  | some text => exact .inl ⟨_, text, .newer newer⟩
  | none =>
    cases other : v.older? with
    | none => exact .inr ⟨newer, fun name h => by simp [other] at h⟩
    | some name =>
      cases set : lookup name with
      | some text => exact .inl ⟨name, text, .older newer other set⟩
      | none =>
        refine .inr ⟨newer, fun name' h => ?_⟩
        rw [other] at h
        rwa [← Option.some.inj h]

/-- One text is read, under one name. -/
theorem Reads.unique {name' text' : String} (h : v.Reads lookup name text)
    (h' : v.Reads lookup name' text') : name = name' ∧ text = text' :=
  Prod.mk.inj (Option.some.inj ((effective?_of_reads h).symm.trans (effective?_of_reads h')))

/-! ### Which number it is -/

/-- What reading the variable answers. -/
def read (v : Variable) (lookup : String → Option String) : Except SettingsError (Option Nat) :=
  Settings.readNumber lookup v.names v.bound

theorem read_of_wrong (h : v.Wrong lookup e) : v.read lookup = .error e := by
  obtain ⟨reads, other⟩ := h
  rw [read, Settings.readNumber, effective?_of_reads reads]
  dsimp only
  cases found : Text.natBelow? v.bound (Text.trim _) with
  | none => rfl
  | some n =>
    obtain ⟨spells, small⟩ := Text.natBelow?_trim_eq_some_iff.1 found
    exact absurd small (Nat.not_lt_of_le (other n spells))

theorem read_of_gives (h : v.Gives lookup n) :
    ∃ n?, v.read lookup = .ok n? ∧ n?.getD v.default = n := by
  cases h with
  | unset h =>
    refine ⟨none, ?_, rfl⟩
    rw [read, Settings.readNumber, effective?_of_unset_names h]
  | read reads spells small =>
    refine ⟨some n, ?_, rfl⟩
    rw [read, Settings.readNumber, effective?_of_reads reads]
    dsimp only
    rw [Text.natBelow?_trim_eq_some_iff.2 ⟨spells, small⟩]

theorem Gives.fine (h : v.Gives lookup n) : v.Fine lookup := by
  intro name text reads
  cases h with
  | unset unset =>
    have found := effective?_of_reads reads
    rw [effective?_of_unset_names unset] at found
    contradiction
  | read reads' spells small =>
    obtain ⟨-, rfl⟩ := reads.unique reads'
    exact ⟨n, spells, small⟩

theorem Fine.exists_gives (h : v.Fine lookup) : ∃ n, v.Gives lookup n := by
  rcases reads_or_unset v lookup with ⟨name, text, reads⟩ | unset
  · obtain ⟨n, spells, small⟩ := h name text reads
    exact ⟨n, .read reads spells small⟩
  · exact ⟨_, .unset unset⟩

theorem Fine.exists_read (h : v.Fine lookup) : ∃ n?, v.read lookup = .ok n? := by
  obtain ⟨n, given⟩ := h.exists_gives
  obtain ⟨n?, answer, -⟩ := read_of_gives given
  exact ⟨n?, answer⟩

/-- A variable is fine or wrong. -/
theorem fine_or_wrong (v : Variable) (lookup : String → Option String) :
    v.Fine lookup ∨ ∃ name text, v.Wrong lookup (.invalidInteger name text) := by
  by_cases fine : v.Fine lookup
  · exact .inl fine
  · simp only [Fine, not_forall, not_exists, not_and, Nat.not_lt] at fine
    obtain ⟨name, text, reads, other⟩ := fine
    exact .inr ⟨name, text, .malformed reads other⟩

/-- A default is a number of its variable, so whatever is said is one. -/
theorem Gives.lt (member : v ∈ all) (h : v.Gives lookup n) : n < v.bound := by
  cases h with
  | unset =>
    have defaults : ∀ v ∈ all, v.default < v.bound := by decide
    exact defaults v member
  | read _ _ small => exact small

end Variable

namespace Settings

variable {s : Settings} {lookup lookup' : String → Option String} {e : SettingsError}

/-! ### What the settings are -/

/-- The settings are what the variables say. -/
structure Holds (lookup : String → Option String) (s : Settings) : Prop where
  instanceCount : Variable.instanceCount.Gives lookup s.instanceCount
  basePort : Variable.basePort.Gives lookup s.basePort.toNat
  probeTimeout : Variable.probeTimeout.Gives lookup s.probeTimeout
  client : s.client = (lookup "STUN_CLIENT").getD "stunclient"
  probeHost : s.probeHost = (lookup "STUN_PROBE_HOST").getD "localhost"

/-- Why there are no settings: the first variable that is wrong, or else the ports. -/
inductive Refused (lookup : String → Option String) : SettingsError → Prop where
  | instanceCount {e : SettingsError} (wrong : Variable.instanceCount.Wrong lookup e) : Refused lookup e
  | basePort {e : SettingsError} (count : Variable.instanceCount.Fine lookup)
    (wrong : Variable.basePort.Wrong lookup e) : Refused lookup e
  | probeTimeout {e : SettingsError} (count : Variable.instanceCount.Fine lookup)
    (port : Variable.basePort.Fine lookup) (wrong : Variable.probeTimeout.Wrong lookup e) :
    Refused lookup e
  | ports {s : Settings} (holds : Holds lookup s)
    (beyond : 65536 < s.basePort.toNat + 2 * s.instanceCount) :
    Refused lookup (.portRangeOverflow s.basePort s.instanceCount)

/-! ### What is answered -/

/-- The settings with these numbers, or the default for one that is left out. -/
def ofNumbers (lookup : String → Option String) (count? port? timeout? : Option Nat) : Settings where
  instanceCount := count?.getD default.instanceCount
  basePort := (port?.map (·.toUInt16)).getD default.basePort
  client := (lookup clientName).getD default.client
  probeHost := (lookup probeHostName).getD default.probeHost
  probeTimeout := timeout?.getD default.probeTimeout

theorem ofLookup_eq (lookup : String → Option String) : ofLookup lookup = (do
    let count? ← Variable.instanceCount.read lookup
    let port? ← Variable.basePort.read lookup
    let timeout? ← Variable.probeTimeout.read lookup
    let _ ← (ofNumbers lookup count? port? timeout?).portPairs
    .ok (ofNumbers lookup count? port? timeout?)) := rfl

/-- A port is a port again after it was read as a number. -/
theorem getD_map_toUInt16 {port? : Option Nat} {default port : UInt16}
    (h : port?.getD default.toNat = port.toNat) : (port?.map (·.toUInt16)).getD default = port := by
  cases port? with
  | none => exact UInt16.toNat_inj.1 h
  | some n =>
    obtain rfl : n = port.toNat := h
    exact UInt16.ofNat_toNat

/-- Settings that are what the variables say are the ones that are given, if their ports can be allocated. -/
theorem ofLookup_of_holds (h : Holds lookup s) : ofLookup lookup = s.portPairs.map fun _ => s := by
  obtain ⟨count?, readCount, count⟩ := Variable.read_of_gives h.instanceCount
  obtain ⟨port?, readPort, port⟩ := Variable.read_of_gives h.basePort
  obtain ⟨timeout?, readTimeout, timeout⟩ := Variable.read_of_gives h.probeTimeout
  have settings : ofNumbers lookup count? port? timeout? = s := by
    have basePort : (port?.map (·.toUInt16)).getD default.basePort = s.basePort := getD_map_toUInt16 port
    have instanceCount : count?.getD default.instanceCount = s.instanceCount := count
    have probeTimeout : timeout?.getD default.probeTimeout = s.probeTimeout := timeout
    have client : (lookup clientName).getD default.client = s.client := h.client.symm
    have probeHost : (lookup probeHostName).getD default.probeHost = s.probeHost := h.probeHost.symm
    rw [ofNumbers, instanceCount, basePort, client, probeHost, probeTimeout]
  rw [ofLookup_eq, readCount, readPort, readTimeout]
  simp only [bind, Except.bind, settings]
  cases s.portPairs <;> rfl

theorem ofLookup_of_fits (h : Holds lookup s) (fits : s.basePort.toNat + 2 * s.instanceCount ≤ 65536) :
    ofLookup lookup = .ok s := by
  rw [ofLookup_of_holds h]
  rcases portPairs_cases s with ⟨-, pairs, allocated⟩ | ⟨beyond, -⟩
  · rw [allocated]
    rfl
  · exact absurd fits (Nat.not_le_of_lt beyond)

theorem ofLookup_of_beyond (h : Holds lookup s) (beyond : 65536 < s.basePort.toNat + 2 * s.instanceCount) :
    ofLookup lookup = .error (.portRangeOverflow s.basePort s.instanceCount) := by
  rw [ofLookup_of_holds h]
  rcases portPairs_cases s with ⟨fits, -⟩ | ⟨-, refused⟩
  · exact absurd fits (Nat.not_le_of_lt beyond)
  · rw [refused]
    rfl

theorem ofLookup_of_refused (h : Refused lookup e) : ofLookup lookup = .error e := by
  cases h with
  | instanceCount wrong =>
    rw [ofLookup_eq, Variable.read_of_wrong wrong]
    rfl
  | basePort count wrong =>
    obtain ⟨count?, readCount⟩ := count.exists_read
    rw [ofLookup_eq, readCount, Variable.read_of_wrong wrong]
    rfl
  | probeTimeout count port wrong =>
    obtain ⟨count?, readCount⟩ := count.exists_read
    obtain ⟨port?, readPort⟩ := port.exists_read
    rw [ofLookup_eq, readCount, readPort, Variable.read_of_wrong wrong]
    rfl
  | ports holds beyond => exact ofLookup_of_beyond holds beyond

/-! ### One of the two -/

theorem Holds.fine (h : Holds lookup s) : ∀ v ∈ Variable.all, v.Fine lookup :=
  Variable.forall_mem_all_iff.2 ⟨h.instanceCount.fine, h.basePort.fine, h.probeTimeout.fine⟩

theorem exists_holds (fine : ∀ v ∈ Variable.all, v.Fine lookup) : ∃ s, Holds lookup s := by
  obtain ⟨countFine, portFine, timeoutFine⟩ := Variable.forall_mem_all_iff.1 fine
  obtain ⟨count, countGiven⟩ := countFine.exists_gives
  obtain ⟨port, portGiven⟩ := portFine.exists_gives
  obtain ⟨timeout, timeoutGiven⟩ := timeoutFine.exists_gives
  have small : port < 65536 := portGiven.lt (by decide)
  refine ⟨⟨count, port.toUInt16, (lookup "STUN_CLIENT").getD "stunclient",
    (lookup "STUN_PROBE_HOST").getD "localhost", timeout⟩, countGiven, ?_, timeoutGiven, rfl, rfl⟩
  rwa [Nat.toUInt16_eq, UInt16.toNat_ofNat_of_lt' small]

/-- All variables are fine, or the first one that is not is told. -/
theorem fine_or_refused (lookup : String → Option String) :
    (∀ v ∈ Variable.all, v.Fine lookup) ∨ ∃ name text, Refused lookup (.invalidInteger name text) := by
  rcases Variable.instanceCount.fine_or_wrong lookup with count | ⟨name, text, wrong⟩
  · rcases Variable.basePort.fine_or_wrong lookup with port | ⟨name, text, wrong⟩
    · rcases Variable.probeTimeout.fine_or_wrong lookup with timeout | ⟨name, text, wrong⟩
      · exact .inl (Variable.forall_mem_all_iff.2 ⟨count, port, timeout⟩)
      · exact .inr ⟨name, text, .probeTimeout count port wrong⟩
    · exact .inr ⟨name, text, .basePort count wrong⟩
  · exact .inr ⟨name, text, .instanceCount wrong⟩

theorem refused_or_holds (lookup : String → Option String) : (∃ e, Refused lookup e) ∨
    ∃ s, Holds lookup s ∧ s.basePort.toNat + 2 * s.instanceCount ≤ 65536 := by
  rcases fine_or_refused lookup with fine | ⟨name, text, refused⟩
  · obtain ⟨s, holds⟩ := exists_holds fine
    by_cases fits : s.basePort.toNat + 2 * s.instanceCount ≤ 65536
    · exact .inr ⟨s, holds, fits⟩
    · exact .inl ⟨_, .ports holds (Nat.lt_of_not_le fits)⟩
  · exact .inl ⟨_, refused⟩

theorem ofLookup_eq_ok_iff : ofLookup lookup = .ok s ↔
    Holds lookup s ∧ s.basePort.toNat + 2 * s.instanceCount ≤ 65536 := by
  refine ⟨fun given => ?_, fun ⟨holds, fits⟩ => ofLookup_of_fits holds fits⟩
  rcases refused_or_holds lookup with ⟨e, refused⟩ | ⟨s', holds, fits⟩
  · rw [ofLookup_of_refused refused] at given
    contradiction
  · rw [ofLookup_of_fits holds fits] at given
    obtain rfl := Except.ok.inj given
    exact ⟨holds, fits⟩

theorem ofLookup_eq_error_iff : ofLookup lookup = .error e ↔ Refused lookup e := by
  refine ⟨fun given => ?_, ofLookup_of_refused⟩
  rcases refused_or_holds lookup with ⟨e', refused⟩ | ⟨s, holds, fits⟩
  · rw [ofLookup_of_refused refused] at given
    obtain rfl := Except.error.inj given
    exact refused
  · rw [ofLookup_of_fits holds fits] at given
    contradiction

/-! ### Older names -/

theorem effective?_congr {names : List String} (same : ∀ name ∈ names, lookup' name = lookup name) :
    effective? lookup' names = effective? lookup names := by
  rw [effective?, effective?, ← List.head?_filterMap, ← List.head?_filterMap]
  exact congrArg List.head? (List.filterMap_congr fun name member => by rw [same name member])

/-- The variables are read, and two texts; nothing else that can be looked up makes a difference. -/
theorem ofLookup_congr
    (same : ∀ v ∈ Variable.all, effective? lookup' v.names = effective? lookup v.names)
    (client : lookup' clientName = lookup clientName)
    (probeHost : lookup' probeHostName = lookup probeHostName) : ofLookup lookup' = ofLookup lookup := by
  have read : ∀ v ∈ Variable.all, v.read lookup' = v.read lookup := fun v member => by
    rw [Variable.read, Variable.read, readNumber, readNumber, same v member]
  obtain ⟨count, port, timeout⟩ := Variable.forall_mem_all_iff.1 read
  simp only [ofLookup_eq, ofNumbers, count, port, timeout, client, probeHost]

/-- An older name belongs to one variable, and nothing else goes by it. -/
theorem older_apart : ∀ v ∈ Variable.all, ∀ older ∈ v.older?.toList,
    (∀ u ∈ Variable.all, u = v ∨ older ∉ u.names) ∧ v.newer ≠ older ∧ clientName ≠ older ∧
      probeHostName ≠ older := by
  decide

/-- Under a newer name that is set the older one is not read. -/
theorem ofLookup_of_newer {v : Variable} {older text : String} (member : v ∈ Variable.all)
    (other : v.older? = some older) (set : lookup v.newer = some text)
    (agree : ∀ name, name ≠ older → lookup' name = lookup name) : ofLookup lookup' = ofLookup lookup := by
  obtain ⟨apart, newer, client, probeHost⟩ := older_apart v member older (by simp [other])
  refine ofLookup_congr (fun u hu => ?_) (agree clientName client) (agree probeHostName probeHost)
  rcases apart u hu with rfl | foreign
  · rw [Variable.effective?_of_newer set, Variable.effective?_of_newer ((agree u.newer newer).trans set)]
  · exact effective?_congr fun name named => agree name fun e => foreign (e ▸ named)

/-- The variables decide. There are settings iff every text that is read spells a number of its variable and
the ports fit; they are what the variables say, the defaults included, their ports can be allocated, and the
command runs a fleet with them, whatever its clients do. Otherwise the answer is the first variable that is
wrong, under the name that was read and with its text as it stands, or else the range of ports. A newer name
that is set to no number is refused whatever the older one says, and under a newer name that is set the older
one is no matter at all. -/
theorem ofLookup_decides (lookup : String → Option String) :
    ((∃ s, ofLookup lookup = .ok s) ↔ (∀ v ∈ Variable.all, v.Fine lookup) ∧
      ∀ s, Holds lookup s → s.basePort.toNat + 2 * s.instanceCount ≤ 65536) ∧
    (∀ s, ofLookup lookup = .ok s → Holds lookup s ∧ ∃ pairs, s.portPairs = .ok pairs ∧
      ∀ site, Command.FleetCommand.run site lookup = Command.FleetCommand.runWith site
        (Log.Filter.ofSetting (lookup Command.filterName)) s pairs) ∧
    (∀ e, ofLookup lookup = .error e ↔ Refused lookup e) ∧
    (∀ v ∈ Variable.all, ∀ text, lookup v.newer = some text →
      (∀ n, Text.Spells text n → v.bound ≤ n) →
      ∃ name value, ofLookup lookup = .error (.invalidInteger name value)) ∧
    ∀ v ∈ Variable.all, ∀ older text, v.older? = some older → lookup v.newer = some text →
      ∀ lookup', (∀ name, name ≠ older → lookup' name = lookup name) →
        ofLookup lookup' = ofLookup lookup := by
  refine ⟨?_, fun s given => ?_, fun e => ofLookup_eq_error_iff, fun v member text set other => ?_,
    fun v member older text other set lookup' agree => ofLookup_of_newer member other set agree⟩
  · constructor
    · rintro ⟨s, given⟩
      refine ⟨(ofLookup_eq_ok_iff.1 given).1.fine, fun s' holds => ?_⟩
      by_contra beyond
      rw [ofLookup_of_beyond holds (Nat.lt_of_not_le beyond)] at given
      contradiction
    · rintro ⟨fine, fits⟩
      obtain ⟨s, holds⟩ := exists_holds fine
      exact ⟨s, ofLookup_of_fits holds (fits s holds)⟩
  · obtain ⟨holds, fits⟩ := ofLookup_eq_ok_iff.1 given
    rcases portPairs_cases s with ⟨-, pairs, allocated⟩ | ⟨beyond, -⟩
    · refine ⟨holds, pairs, allocated, fun site => ?_⟩
      simp only [Command.FleetCommand.run, given, Except.bind, allocated]
    · exact absurd fits (Nat.not_le_of_lt beyond)
  · rcases fine_or_refused lookup with fine | ⟨name, value, refused⟩
    · obtain ⟨n, spells, small⟩ := fine v member v.newer text (.newer set)
      exact absurd small (Nat.not_lt_of_le (other n spells))
    · exact ⟨name, value, ofLookup_of_refused refused⟩

/-- Older names give the count and the port, and there are blanks, a plus sign and leading zeros. -/
def fromOlderNames (name : String) : Option String :=
  if name = "stun_number" then some "\t+0002 "
  else if name = "baseport" then some "65532"
  else if name = "STUN_PROBE_HOST" then some "::1"
  else none

/-- The newer name of the count is set too, but to no number. -/
def withNewerCount (name : String) : Option String :=
  if name = "STUN_NUMBER" then some "five" else fromOlderNames name

/-- The same without the older name of the count. -/
def withoutOlderCount (name : String) : Option String :=
  if name = "stun_number" then none else withNewerCount name

/-- The older names alone give settings for the last four ports. Beside a newer name that spells no number
the older one is no help, and it makes no difference to leave it out. -/
theorem ofLookup_of_older_names :
    (Holds fromOlderNames ⟨2, 65532, "stunclient", "::1", 10000⟩ ∧
      ∃ pairs, (⟨2, 65532, "stunclient", "::1", 10000⟩ : Settings).portPairs = .ok pairs) ∧
    Refused withNewerCount (.invalidInteger "STUN_NUMBER" "five") ∧
    (∃ name text, ofLookup withNewerCount = .error (.invalidInteger name text)) ∧
    ofLookup withoutOlderCount = ofLookup withNewerCount := by
  have given : ofLookup fromOlderNames = .ok ⟨2, 65532, "stunclient", "::1", 10000⟩ := by decide
  have refused : ofLookup withNewerCount = .error (.invalidInteger "STUN_NUMBER" "five") := by decide
  have noNumber : ∀ n, Text.Spells "five" n → Variable.instanceCount.bound ≤ n := by
    intro n spells
    by_contra small
    have found : Text.natBelow? Variable.instanceCount.bound (Text.trim "five") = some n :=
      Text.natBelow?_trim_eq_some_iff.2 ⟨spells, Nat.lt_of_not_le small⟩
    have none : Text.natBelow? Variable.instanceCount.bound (Text.trim "five") = none := by decide
    rw [none] at found
    contradiction
  have older := ofLookup_decides fromOlderNames
  have newer := ofLookup_decides withNewerCount
  obtain ⟨holds, pairs, allocated, -⟩ := older.2.1 _ given
  refine ⟨⟨holds, pairs, allocated⟩, (newer.2.2.1 _).1 refused,
    newer.2.2.2.1 Variable.instanceCount (by decide) "five" rfl noNumber,
    newer.2.2.2.2 Variable.instanceCount (by decide) "stun_number" "five" rfl rfl withoutOlderCount ?_⟩
  exact fun name other => if_neg other

end Settings
end ServerTrials.Fleet
