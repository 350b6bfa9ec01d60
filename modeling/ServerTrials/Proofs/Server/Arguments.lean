import ServerTrials.Proofs.Server.Positional

/-!
What positional arguments say.

Up to three arguments are read one after another, and each says something about options of its own: its
members, and if it is an endpoint, the default of a port that it does not give (`Says`). Each can be wrong in
its own way (`Wrong`), and the first wrong one is reported. After so many arguments the options hold just what
these have said (`Holds`): reading one more argument takes this invariant one place further, or else that
argument is wrong (`Answers`). Both endpoints are one lemma, which is told the default port (`DefaultPort`).

The arguments only differ in their names from the options that they become, so any options with both ports
can be spelled as arguments.
-/

namespace ServerTrials.Positional

/-! ### What can be wrong -/

/-- The argument is left out, a number or an object. -/
def isEndpoint : Option Json → Bool
  | none | some (.number _) | some (.object _) => true
  | _ => false

/-- The argument is left out, a string or an object. -/
def isExtras : Option Json → Bool
  | none | some (.string _) | some (.object _) => true
  | _ => false

/-- The roles of the endpoint arguments, in their order. -/
def roles : List Role := [primary, alternate]

/-- What stands for a port that the argument at a position does not give: the fixed one, or the successor of
the primary port modulo 65536, which the largest integer does not have. -/
inductive DefaultPort (args : List (Option Json)) : Nat → Except ConfigError Int → Prop
  | fixed : DefaultPort args 0 (.ok 3478)
  | next {n : Int} (primary : ResolvesPort (argument args 0) 3478 n) (below : n ≠ 9223372036854775807) :
      DefaultPort args 1 (.ok ((n + 1) % 65536))
  | last (primary : ResolvesPort (argument args 0) 3478 9223372036854775807) :
      DefaultPort args 1 (.error (.portOutOfRange Key.primaryPort 9223372036854775807))

/-- The argument at a position is wrong, and how this is reported. -/
inductive Wrong (args : List (Option Json)) : Nat → ConfigError → Prop
  | endpoint {p : Nat} {role : Role} (turn : roles[p]? = some role)
      (shape : isEndpoint (argument args p) = false) : Wrong args p (.invalidEndpointArgument p)
  | port {p : Nat} {role : Role} {v : Json} (turn : roles[p]? = some role)
      (given : givenPort (argument args p) = some v) (noInteger : v.int64? = none) :
      Wrong args p (.invalidType role.port "an integer")
  | noDefault {p : Nat} {e : ConfigError} (shape : isEndpoint (argument args p) = true)
      (absent : givenPort (argument args p) = none) (default : DefaultPort args p (.error e)) :
      Wrong args p e
  | extras (shape : isExtras (argument args 2) = false) : Wrong args 2 .invalidExtrasArgument

/-- The error is that of the first wrong argument. -/
def FirstWrong (args : List (Option Json)) (e : ConfigError) : Prop :=
  ∃ p, Wrong args p e ∧ ∀ q < p, ∀ e', ¬ Wrong args q e'

/-! ### What is said -/

/-- The members of the argument at a position, each with the option that it becomes. -/
def names : Nat → List (String × String)
  | 0 => [("port", Key.primaryPort), ("interface", Key.primaryInterface),
      ("advertised", Key.primaryAdvertised)]
  | 1 => [("port", Key.alternatePort), ("interface", Key.alternateInterface),
      ("advertised", Key.alternateAdvertised)]
  | 2 => [("protocol", Key.protocol), ("mode", Key.mode), ("family", Key.family),
      ("max_connections", Key.maxConnections), ("verbosity", Key.verbosity)]
  | _ => []

/-- The options that the argument at a position is about. -/
def owned (p : Nat) : List String := (names p).map (·.2)

/-- The argument at a position as the members of an object. -/
def members (args : List (Option Json)) : Nat → List (String × Json)
  | 2 => extraMembers (argument args 2)
  | p => endpointMembers (argument args p)

/-- The argument at a position says that the option has the value: by a member, or by leaving out its port. -/
inductive Says (args : List (Option Json)) : Nat → String → Json → Prop
  | member {p : Nat} {name key : String} {v : Json} (becomes : (name, key) ∈ names p)
      (given : Json.get? (members args p) name = some v) : Says args p key v
  | port {p : Nat} {role : Role} {n : Int} (turn : roles[p]? = some role)
      (absent : givenPort (argument args p) = none) (default : DefaultPort args p (.ok n)) :
      Says args p role.port (.number (.integer n))

/-- The options are just what the first so many arguments say. -/
def Holds (args : List (Option Json)) (p : Nat) (o : OptionMap) : Prop :=
  ∀ key v, o.get? key = some v ↔ ∃ q < p, Says args q key v

/-- The argument at a position is wrong and reported, or else the options hold what it says too. -/
def Answers (args : List (Option Json)) (p : Nat) : Except ConfigError OptionMap → Prop
  | .ok o => (∀ e, ¬ Wrong args p e) ∧ Holds args (p + 1) o
  | .error e => Wrong args p e

/-- The first wrong argument is reported if it is one of the first so many, or else the options hold just
what these say. -/
def Reads (args : List (Option Json)) (p : Nat) : Except ConfigError OptionMap → Prop
  | .ok o => (∀ q < p, ∀ e, ¬ Wrong args q e) ∧ Holds args p o
  | .error e => FirstWrong args e

variable {args args' : List (Option Json)} {p q : Nat} {role : Role} {o : OptionMap} {name key : String}
  {v : Json} {e e' : ConfigError}

/-! ### Roles and names -/

theorem primary_turn : roles[0]? = some primary := rfl

theorem alternate_turn : roles[1]? = some alternate := rfl

theorem role_cases (turn : roles[p]? = some role) :
    p = 0 ∧ role = primary ∨ p = 1 ∧ role = alternate := by
  match p with
  | 0 => exact Or.inl ⟨rfl, (Option.some.inj turn).symm⟩
  | 1 => exact Or.inr ⟨rfl, (Option.some.inj turn).symm⟩
  | p + 2 => contradiction

theorem names_eq (turn : roles[p]? = some role) : names p = role.names := by
  obtain ⟨rfl, rfl⟩ | ⟨rfl, rfl⟩ := role_cases turn <;> rfl

theorem members_eq (turn : roles[p]? = some role) : members args p = endpointMembers (argument args p) := by
  obtain ⟨rfl, rfl⟩ | ⟨rfl, rfl⟩ := role_cases turn <;> rfl

theorem members_congr (same : argument args p = argument args' p) : members args p = members args' p := by
  unfold members
  split <;> rw [same]

theorem port_mem_owned (turn : roles[p]? = some role) : role.port ∈ owned p := by
  rw [owned, names_eq turn]
  exact List.mem_cons_self

/-- No option belongs to two arguments, and none twice to one. -/
theorem nodup_owned (p : Nat) : (owned p).Nodup := by
  match p with
  | 0 | 1 | 2 => decide
  | p + 3 => exact List.nodup_nil

theorem eq_of_mem_owned (first : key ∈ owned p) (second : key ∈ owned q) : p = q := by
  match p, q with
  | p + 3, _ => contradiction
  | _, q + 3 => contradiction
  | 0, 0 | 1, 1 | 2, 2 => rfl
  | 0, 1 | 0, 2 | 1, 0 | 1, 2 | 2, 0 | 2, 1 =>
    refine absurd second ?_
    revert first
    revert key
    decide

theorem Says.mem_owned (h : Says args p key v) : key ∈ owned p := by
  cases h with
  | member becomes given => exact List.mem_map.2 ⟨_, becomes, rfl⟩
  | port turn absent default => exact port_mem_owned turn

/-- The options are new to the argument that they belong to. -/
theorem Holds.fresh (h : Holds args p o) (own : key ∈ owned p) : o.get? key = none := by
  refine Option.eq_none_iff_forall_ne_some.2 fun v present => ?_
  obtain ⟨q, lt, said⟩ := (h key v).1 present
  exact absurd (eq_of_mem_owned own said.mem_owned) (Nat.ne_of_gt lt)

/-! ### One argument -/

/-- Members that are new to the options are added to them. -/
theorem get?_foldl_copy_eq_some_iff {given : List (String × Json)} {names : List (String × String)}
    (distinct : (names.map (·.2)).Nodup) (fresh : ∀ key ∈ names.map (·.2), o.get? key = none) :
    (names.foldl (copy given) o).get? key = some v ↔
      o.get? key = some v ∨ ∃ name, (name, key) ∈ names ∧ Json.get? given name = some v := by
  by_cases own : key ∈ names.map (·.2)
  · obtain ⟨⟨name, key⟩, mem, rfl⟩ := List.mem_map.1 own
    have only : ∀ name', (name', key) ∈ names → name' = name := fun name' mem' =>
      congrArg Prod.fst (List.inj_on_of_nodup_map distinct mem' mem rfl)
    rw [get?_foldl_copy_of_mem given distinct mem, fresh key own, Option.or_none]
    simp only [reduceCtorEq, false_or]
    constructor
    · exact fun h => ⟨name, mem, h⟩
    · rintro ⟨name', mem', h⟩
      rwa [← only name' mem']
  · rw [get?_foldl_copy_of_not_mem given own]
    refine ⟨Or.inl, fun h => h.resolve_right ?_⟩
    rintro ⟨name, mem, -⟩
    exact own (List.mem_map.2 ⟨_, mem, rfl⟩)

theorem addEndpoint_eq (p : Nat) (role : Role) (arg : Option Json) (o : OptionMap) :
    addEndpoint p role arg o =
      if isEndpoint arg then .ok (role.names.foldl (copy (endpointMembers arg)) o)
      else .error (.invalidEndpointArgument p) := by
  match arg with
  | none | some (.object _) | some (.number _) => rfl
  | some .null | some (.bool _) | some (.string _) | some (.array _) => rfl

theorem addExtras_eq (arg : Option Json) (o : OptionMap) :
    addExtras arg o =
      if isExtras arg then .ok (extraNames.foldl (copy (extraMembers arg)) o)
      else .error .invalidExtrasArgument := by
  match arg with
  | none | some (.object _) | some (.string _) => rfl
  | some .null | some (.bool _) | some (.number _) | some (.array _) => rfl

/-! ### An endpoint -/

theorem DefaultPort.unique {x y : Except ConfigError Int} (hx : DefaultPort args p x)
    (hy : DefaultPort args p y) : x = y := by
  cases hx with
  | fixed =>
    cases hy
    rfl
  | next primary below =>
    cases hy with
    | next primary' => rw [primary.unique primary']
    | last primary' => exact absurd (primary.unique primary') below
  | last primary =>
    cases hy with
    | next primary' below => exact absurd (primary'.unique primary) below
    | last => rfl

/-- An endpoint of the wrong shape gives no port. -/
theorem givenPort_of_isEndpoint_eq_false {arg : Option Json} (shape : isEndpoint arg = false) :
    givenPort arg = none := by
  match arg with
  | none | some (.object _) | some (.number _) => contradiction
  | some .null | some (.bool _) | some (.string _) | some (.array _) => rfl

/-- An endpoint of the right shape is only wrong about its port. -/
theorem wrong_iff_of_isEndpoint (turn : roles[p]? = some role)
    (shape : isEndpoint (argument args p) = true) : Wrong args p e ↔
      (∃ v, givenPort (argument args p) = some v ∧ v.int64? = none ∧ e = .invalidType role.port "an integer") ∨
        (givenPort (argument args p) = none ∧ DefaultPort args p (.error e)) := by
  constructor
  · intro wrong
    cases wrong with
    | endpoint _ bad => exact absurd (shape.symm.trans bad) (by decide)
    | port turn' given noInteger =>
      obtain rfl := Option.some.inj (turn.symm.trans turn')
      exact Or.inl ⟨_, given, noInteger, rfl⟩
    | noDefault _ absent default => exact Or.inr ⟨absent, default⟩
    | extras => contradiction
  · rintro (⟨v, given, noInteger, rfl⟩ | ⟨absent, default⟩)
    · exact .port turn given noInteger
    · exact .noDefault shape absent default

/-- An argument that is not an endpoint without a port says what its members say. -/
theorem says_iff_of_given (given : ∀ role, roles[p]? = some role → givenPort (argument args p) ≠ none) :
    Says args p key v ↔ ∃ name, (name, key) ∈ names p ∧ Json.get? (members args p) name = some v := by
  constructor
  · intro said
    cases said with
    | member becomes here => exact ⟨_, becomes, here⟩
    | port turn absent => exact absurd absent (given _ turn)
  · rintro ⟨name, becomes, here⟩
    exact .member becomes here

/-- An endpoint without a port says its default too. -/
theorem says_iff_of_default (turn : roles[p]? = some role) {n : Int}
    (absent : givenPort (argument args p) = none) (default : DefaultPort args p (.ok n)) :
    Says args p key v ↔ (role.port = key ∧ .number (.integer n) = v) ∨
      ∃ name, (name, key) ∈ names p ∧ Json.get? (members args p) name = some v := by
  constructor
  · intro said
    cases said with
    | member becomes here => exact Or.inr ⟨_, becomes, here⟩
    | port turn' _ default' =>
      obtain rfl := Option.some.inj (turn.symm.trans turn')
      obtain rfl := Except.ok.inj (default.unique default')
      exact Or.inl ⟨rfl, rfl⟩
  · rintro (⟨rfl, rfl⟩ | ⟨name, becomes, here⟩)
    · exact .port turn absent default
    · exact .member becomes here

/-- Once its members are added, an endpoint argument is read to the end with its default port. -/
theorem answers_fillPort (turn : roles[p]? = some role) (shape : isEndpoint (argument args p) = true)
    {missing : Except ConfigError Int} (default : DefaultPort args p missing)
    (added : ∀ key v, o.get? key = some v ↔ (∃ q < p, Says args q key v) ∨
      ∃ name, (name, key) ∈ names p ∧ Json.get? (members args p) name = some v)
    (port : o.get? role.port = givenPort (argument args p)) : Answers args p (fillPort role missing o) := by
  unfold fillPort
  rw [port]
  cases given : givenPort (argument args p) with
  | some v =>
    dsimp only
    split
    next n fits =>
      refine ⟨fun e => ?_, fun key w => ?_⟩
      · simp [wrong_iff_of_isEndpoint turn shape, given, fits]
      · rw [added, Nat.exists_lt_succ_right, says_iff_of_given fun _ _ => by simp [given]]
    next noInteger => exact Wrong.port turn given noInteger
  | none =>
    cases missing with
    | error e => exact Wrong.noDefault shape given default
    | ok n =>
      refine ⟨fun e => ?_, fun key w => ?_⟩
      · have some_default : ¬ DefaultPort args p (.error e) := fun none => by
          have same := default.unique none
          contradiction
        simp [wrong_iff_of_isEndpoint turn shape, given, some_default]
      · rw [OptionMap.get?_insert, Nat.exists_lt_succ_right, says_iff_of_default turn given default,
          or_left_comm, ← added]
        split
        next same =>
          rw [← same, port, given]
          simp
        next other => simp [other]

/-- An endpoint argument with its default port is read one place further, in either role. -/
theorem answers_endpoint (turn : roles[p]? = some role) (holds : Holds args p o)
    {missing : Except ConfigError Int} (default : DefaultPort args p missing) :
    Answers args p (addEndpoint p role (argument args p) o >>= fillPort role missing) := by
  have distinct : (role.names.map (·.2)).Nodup := names_eq turn ▸ nodup_owned p
  have fresh : ∀ key ∈ role.names.map (·.2), o.get? key = none := fun key own =>
    holds.fresh (by rwa [owned, names_eq turn])
  rw [addEndpoint_eq]
  split
  next shape =>
    refine answers_fillPort turn shape default (fun key v => ?_) ?_
    · rw [get?_foldl_copy_eq_some_iff distinct fresh, holds key v, names_eq turn, members_eq turn]
    · rw [get?_foldl_copy_of_mem (endpointMembers (argument args p)) distinct List.mem_cons_self o,
        holds.fresh (port_mem_owned turn), Option.or_none, givenPort]
  next shape => exact Wrong.endpoint turn (Bool.eq_false_iff.2 shape)

/-! ### All arguments -/

theorem holds_empty (args : List (Option Json)) : Holds args 0 .empty := fun key v => by
  simp [OptionMap.get?_empty]

theorem answers_withPrimary (args : List (Option Json)) : Answers args 0 (withPrimary args) :=
  answers_endpoint primary_turn (holds_empty args) .fixed

theorem defaultPort_successor {n : Int} (primary : ResolvesPort (argument args 0) 3478 n)
    (fits : (Json.number (.integer n)).int64? = some n) : DefaultPort args 1 (successor n) := by
  obtain ⟨-, -, bound⟩ := ServerConfig.int64?_eq_some_iff.1 fits
  rw [Json.int64Bound] at bound
  unfold successor
  split
  next below =>
    rw [Json.int64Bound] at below
    exact .next primary (by omega)
  next above =>
    rw [Json.int64Bound] at above
    obtain rfl : n = 9223372036854775807 := by omega
    exact .last primary

/-- The alternate endpoint leaves the primary port alone, so its default is known before it is added. -/
theorem withAlternate_eq {n : Int} (present : o.get? Key.primaryPort = some (.number (.integer n)))
    (fits : (Json.number (.integer n)).int64? = some n) :
    withAlternate args o =
      (addEndpoint 1 alternate (argument args 1) o >>= fillPort alternate (successor n)) := by
  unfold withAlternate
  cases added : addEndpoint 1 alternate (argument args 1) o with
  | error e => rfl
  | ok o₁ =>
    have untouched := (get?_of_addEndpoint_of_not_mem added (by decide)).trans present
    change fillPort alternate (successor (primaryPortOf o₁)) o₁ = fillPort alternate (successor n) o₁
    rw [primaryPortOf_eq untouched fits]

theorem answers_withAlternate (first : withPrimary args = .ok o) (holds : Holds args 1 o) :
    Answers args 1 (withAlternate args o) := by
  obtain ⟨n, present, fits, resolved, -⟩ := primaryPort_of_withPrimary first
  rw [withAlternate_eq present fits]
  exact answers_endpoint alternate_turn holds (defaultPort_successor resolved fits)

theorem answers_addExtras (holds : Holds args 2 o) : Answers args 2 (addExtras (argument args 2) o) := by
  rw [addExtras_eq]
  split
  next shape =>
    refine ⟨fun e wrong => ?_, fun key v => ?_⟩
    · cases wrong with
      | endpoint turn => contradiction
      | port turn => contradiction
      | noDefault _ _ default => contradiction
      | extras bad => exact absurd (shape.symm.trans bad) (by decide)
    · rw [Nat.exists_lt_succ_right, says_iff_of_given fun _ turn => by contradiction, ← holds key v]
      exact get?_foldl_copy_eq_some_iff (nodup_owned 2) fun key own => holds.fresh own
  next shape => exact Wrong.extras (Bool.eq_false_iff.2 shape)

theorem Reads.bind {x : Except ConfigError OptionMap} {f : OptionMap → Except ConfigError OptionMap}
    (h : Reads args p x) (next : ∀ o, x = .ok o → Holds args p o → Answers args p (f o)) :
    Reads args (p + 1) (x >>= f) := by
  cases x with
  | error e => exact h
  | ok o =>
    obtain ⟨right, holds⟩ := h
    have answers := next o rfl holds
    change Reads args (p + 1) (f o)
    cases read : f o with
    | error e =>
      rw [read] at answers
      exact ⟨p, answers, right⟩
    | ok o' =>
      rw [read] at answers
      exact ⟨Nat.forall_lt_succ_right.2 ⟨right, answers.1⟩, answers.2⟩

theorem reads_options (few : args.length ≤ 3) : Reads args 3 (options args) := by
  have start : Reads args 0 (.ok .empty) := ⟨fun q lt => absurd lt (Nat.not_lt_zero q), holds_empty args⟩
  have first : Reads args 1 (withPrimary args) := start.bind fun _ _ _ => answers_withPrimary args
  rw [options, if_neg (Nat.not_lt.2 few)]
  have second : Reads args 2 (withPrimary args >>= withAlternate args) :=
    first.bind fun _ read holds => answers_withAlternate read holds
  have third : Reads args 3 ((withPrimary args >>= withAlternate args) >>= addExtras (argument args 2)) :=
    second.bind fun _ _ holds => answers_addExtras holds
  rwa [bind_assoc] at third

/-! ### Errors -/

theorem Wrong.lt (h : Wrong args p e) : p < 3 := by
  cases h with
  | endpoint turn => obtain ⟨rfl, -⟩ | ⟨rfl, -⟩ := role_cases turn <;> decide
  | port turn => obtain ⟨rfl, -⟩ | ⟨rfl, -⟩ := role_cases turn <;> decide
  | noDefault _ _ default => cases default; decide
  | extras => decide

/-- An argument is wrong in one way. -/
theorem Wrong.unique (h : Wrong args p e) (h' : Wrong args p e') : e = e' := by
  cases h with
  | endpoint turn shape =>
    cases h' with
    | endpoint => rfl
    | port _ given =>
      rw [givenPort_of_isEndpoint_eq_false shape] at given
      contradiction
    | noDefault shape' => exact absurd (shape'.symm.trans shape) (by decide)
    | extras => contradiction
  | port turn given noInteger =>
    cases h' with
    | endpoint _ shape =>
      rw [givenPort_of_isEndpoint_eq_false shape] at given
      contradiction
    | port turn' => rw [Option.some.inj (turn.symm.trans turn')]
    | noDefault _ absent =>
      rw [given] at absent
      contradiction
    | extras => contradiction
  | noDefault shape absent default =>
    cases h' with
    | endpoint _ shape' => exact absurd (shape.symm.trans shape') (by decide)
    | port _ given =>
      rw [absent] at given
      contradiction
    | noDefault _ _ default' => exact Except.error.inj (default.unique default')
    | extras => contradiction
  | extras shape =>
    cases h' with
    | endpoint turn => contradiction
    | port turn => contradiction
    | noDefault _ _ default => contradiction
    | extras => rfl

theorem FirstWrong.unique (h : FirstWrong args e) (h' : FirstWrong args e') : e = e' := by
  obtain ⟨p, wrong, before⟩ := h
  obtain ⟨q, wrong', before'⟩ := h'
  have same : p = q := Nat.le_antisymm (Nat.not_lt.1 fun lt => before q lt e' wrong')
    (Nat.not_lt.1 fun lt => before' p lt e wrong)
  subst same
  exact wrong.unique wrong'

/-- Too many arguments are reported before anything else, and then the first wrong one. -/
theorem options_eq_error_iff : options args = .error e ↔
    (3 < args.length ∧ e = .tooManyArguments args.length) ∨ (args.length ≤ 3 ∧ FirstWrong args e) := by
  by_cases few : args.length ≤ 3
  · have reads := reads_options few
    cases read : options args with
    | error e' =>
      rw [read] at reads
      simp only [few, true_and, Nat.not_lt.2 few, false_and, false_or, Except.error.injEq]
      exact ⟨fun same => same ▸ reads, fun first => FirstWrong.unique reads first⟩
    | ok o =>
      rw [read] at reads
      refine iff_of_false (by simp) ?_
      rintro (⟨many, -⟩ | ⟨-, p, wrong, -⟩)
      · exact absurd few (Nat.not_le.2 many)
      · exact reads.1 p wrong.lt e wrong
  · rw [options, if_pos (Nat.not_le.1 few), Except.error.injEq]
    simp [few, Nat.not_le.1 few, eq_comm]

/-! ### Options -/

theorem Says.lt (h : Says args p key v) : p < 3 := by
  cases h with
  | member becomes =>
    match p with
    | 0 | 1 | 2 => decide
    | p + 3 => exact absurd becomes List.not_mem_nil
  | port turn => obtain ⟨rfl, -⟩ | ⟨rfl, -⟩ := role_cases turn <;> decide

theorem holds_three_iff : Holds args 3 o ↔ ∀ key v, o.get? key = some v ↔ ∃ p, Says args p key v := by
  have all : ∀ key v, (∃ p < 3, Says args p key v) ↔ ∃ p, Says args p key v := fun key v =>
    ⟨fun ⟨p, _, said⟩ => ⟨p, said⟩, fun ⟨p, said⟩ => ⟨p, said.lt, said⟩⟩
  simp only [Holds, all]

/-- Arguments of which none is wrong stand for the options that hold just what they say. -/
theorem options_eq_ok_iff : options args = .ok o ↔
    args.length ≤ 3 ∧ (∀ p e, ¬ Wrong args p e) ∧
      ∀ key v, o.get? key = some v ↔ ∃ p, Says args p key v := by
  rw [← holds_three_iff]
  constructor
  · intro read
    have few : args.length ≤ 3 := Nat.not_lt.1 fun many => by
      rw [options, if_pos many] at read
      contradiction
    have reads := reads_options few
    rw [read] at reads
    exact ⟨few, fun p e wrong => reads.1 p wrong.lt e wrong, reads.2⟩
  · rintro ⟨few, right, holds⟩
    have reads := reads_options few
    cases read : options args with
    | error e =>
      rw [read] at reads
      obtain ⟨p, wrong, -⟩ := reads
      exact absurd wrong (right p e)
    | ok o' =>
      rw [read] at reads
      refine congrArg Except.ok (OptionMap.ext_get? fun key => Option.ext fun v => ?_)
      rw [reads.2 key v, holds key v]

/-! ### What an argument is about -/

/-- What is said about an option does not depend on an argument that it does not belong to, unless that is the
primary endpoint and the option the default of the alternate port. -/
theorem Says.congr (agree : ∀ r, r ≠ p → argument args r = argument args' r) (other : key ∉ owned p)
    (given : p = 0 → key = Key.alternatePort → givenPort (argument args 1) ≠ none)
    (h : Says args q key v) : Says args' q key v := by
  have ne : q ≠ p := fun same => other (same ▸ h.mem_owned)
  cases h with
  | member becomes here =>
    refine .member becomes ?_
    rwa [← members_congr (agree q ne)]
  | port turn absent default =>
    refine .port turn (agree q ne ▸ absent) ?_
    cases default with
    | fixed => exact .fixed
    | next primary below =>
      -- the only case in which an argument says something because of another one
      obtain rfl : alternate = _ := Option.some.inj turn
      have first : p ≠ 0 := fun same => given same rfl absent
      exact .next (agree 0 first.symm ▸ primary) below

/-- Accepted arguments that differ at one place stand for the same options but for those of this place. -/
theorem get?_options_congr {o' : OptionMap} (agree : ∀ r, r ≠ p → argument args r = argument args' r)
    (read : options args = .ok o) (read' : options args' = .ok o') (other : key ∉ owned p)
    (given : p = 0 → key = Key.alternatePort → givenPort (argument args 1) ≠ none) :
    o.get? key = o'.get? key := by
  obtain ⟨-, -, holds⟩ := options_eq_ok_iff.1 read
  obtain ⟨-, -, holds'⟩ := options_eq_ok_iff.1 read'
  have given' : p = 0 → key = Key.alternatePort → givenPort (argument args' 1) ≠ none :=
    fun first is => agree 1 (by omega) ▸ given first is
  refine Option.ext fun v => ?_
  rw [holds key v, holds' key v]
  exact exists_congr fun q =>
    ⟨Says.congr agree other given, Says.congr (fun r ne => (agree r ne).symm) other given'⟩

/-! ### Options as arguments -/

/-- Known options alone, with both ports as integers of 64 bits. -/
structure Complete (o : OptionMap) : Prop where
  known : ∀ key ∈ o.keys, key ∈ Key.all
  primaryPort : ∃ v n, o.get? Key.primaryPort = some v ∧ v.int64? = some n
  alternatePort : ∃ v n, o.get? Key.alternatePort = some v ∧ v.int64? = some n

/-- The options as the members of one argument. -/
def gather (names : List (String × String)) (o : OptionMap) : OptionMap :=
  (names.map Prod.swap).foldl (copy o.entries) .empty

/-- Three objects that stand for the options. -/
def spelled (o : OptionMap) : List (Option Json) :=
  [some (gather (names 0) o).toJson, some (gather (names 1) o).toJson, some (gather (names 2) o).toJson]

theorem mem_all_iff : key ∈ Key.all ↔ ∃ p, key ∈ owned p := by
  constructor
  · have owners : ∀ key ∈ Key.all, key ∈ owned 0 ∨ key ∈ owned 1 ∨ key ∈ owned 2 := by decide
    intro known
    rcases owners key known with own | own | own
    · exact ⟨0, own⟩
    · exact ⟨1, own⟩
    · exact ⟨2, own⟩
  · rintro ⟨p, own⟩
    have known : ∀ p < 3, ∀ key ∈ owned p, key ∈ Key.all := by decide
    match p with
    | 0 | 1 | 2 => exact known _ (by decide) key own
    | p + 3 => exact absurd own List.not_mem_nil

/-- A port that is given, or else a default of 64 bits, is an integer of 64 bits. -/
theorem int64?_of_resolvesPort (turn : roles[p]? = some role) (right : ∀ e, ¬ Wrong args p e)
    {default n : Int} (fits : (Json.number (.integer default)).int64? = some default)
    (resolved : ResolvesPort (argument args p) default n) :
    (Json.number (.integer n)).int64? = some n := by
  rcases resolved with ⟨-, rfl⟩ | given
  · exact fits
  · cases read : (Json.number (.integer n)).int64? with
    | none => exact absurd (.port turn given read) (right _)
    | some m => rw [Json.Number.integer.inj (Json.number.inj (ServerConfig.int64?_eq_some_iff.1 read).1)]

theorem complete_of_options (read : options args = .ok o) : Complete o := by
  obtain ⟨-, right, holds⟩ := options_eq_ok_iff.1 read
  obtain ⟨n, m, first, second, primaryPort, alternatePort⟩ := ports_of_options read
  have successor : (Json.number (.integer ((n + 1) % 65536))).int64? = some ((n + 1) % 65536) := by
    rw [ServerConfig.int64?_eq_some_iff, Json.minInt64, Json.int64Bound]
    exact ⟨rfl, by omega, by omega⟩
  refine ⟨fun key mem => ?_,
    ⟨_, n, primaryPort, int64?_of_resolvesPort primary_turn (right 0) rfl first⟩,
    ⟨_, m, alternatePort, int64?_of_resolvesPort alternate_turn (right 1) successor second⟩⟩
  obtain ⟨v, present⟩ := Option.ne_none_iff_exists'.1 (OptionMap.mem_keys_iff.1 mem)
  obtain ⟨p, said⟩ := (holds key v).1 present
  exact mem_all_iff.2 ⟨p, said.mem_owned⟩

/-- The arguments say of each option what it is. -/
theorem get?_gather {names : List (String × String)} (distinct : (names.map (·.1)).Nodup) {name : String}
    (becomes : (name, key) ∈ names) (o : OptionMap) :
    Json.get? (gather names o).entries name = o.get? key := by
  have swapped : ((names.map Prod.swap).map (·.2)).Nodup := by
    rw [List.map_map]
    exact distinct
  have mem : (key, name) ∈ names.map Prod.swap := List.mem_map.2 ⟨_, becomes, rfl⟩
  have copied := get?_foldl_copy_of_mem o.entries swapped mem .empty
  rw [OptionMap.get?_empty, Option.or_none] at copied
  exact copied

theorem members_spelled (becomes : (name, key) ∈ names p) (o : OptionMap) :
    Json.get? (members (spelled o) p) name = o.get? key := by
  match p with
  | 0 => exact get?_gather (by decide) becomes o
  | 1 => exact get?_gather (by decide) becomes o
  | 2 => exact get?_gather (by decide) becomes o
  | p + 3 => exact absurd becomes List.not_mem_nil

theorem givenPort_spelled (turn : roles[p]? = some role) (o : OptionMap) :
    givenPort (argument (spelled o) p) = o.get? role.port := by
  rw [givenPort, ← members_eq turn]
  refine members_spelled ?_ o
  rw [names_eq turn]
  exact List.mem_cons_self

/-- Complete options are what their spelling stands for. -/
theorem options_spelled (complete : Complete o) : options (spelled o) = .ok o := by
  have ports : ∀ (p : Nat) (role : Role), roles[p]? = some role →
      ∃ v n, o.get? role.port = some v ∧ v.int64? = some n := by
    intro p role turn
    obtain ⟨rfl, rfl⟩ | ⟨rfl, rfl⟩ := role_cases turn
    · exact complete.primaryPort
    · exact complete.alternatePort
  have given : ∀ (p : Nat) (role : Role), roles[p]? = some role →
      givenPort (argument (spelled o) p) ≠ none := by
    intro p role turn
    obtain ⟨v, n, present, -⟩ := ports p role turn
    rw [givenPort_spelled turn, present]
    exact Option.some_ne_none v
  refine options_eq_ok_iff.2 ⟨Nat.le_refl 3, fun p e wrong => ?_, fun key v => ?_⟩
  · cases wrong with
    | endpoint turn shape => obtain ⟨rfl, -⟩ | ⟨rfl, -⟩ := role_cases turn <;> contradiction
    | port turn here noInteger =>
      obtain ⟨v, n, present, fits⟩ := ports _ _ turn
      rw [givenPort_spelled turn, present, Option.some.injEq] at here
      rw [← here, fits] at noInteger
      contradiction
    | noDefault _ absent default =>
      cases default with
      | last => exact given 1 alternate alternate_turn absent
    | extras => contradiction
  · simp only [says_iff_of_given (given _)]
    constructor
    · intro present
      obtain ⟨p, own⟩ := mem_all_iff.1 (complete.known key (OptionMap.mem_keys_iff.2 (by simp [present])))
      obtain ⟨⟨name, key⟩, becomes, rfl⟩ := List.mem_map.1 own
      exact ⟨p, name, becomes, (members_spelled becomes o).trans present⟩
    · rintro ⟨p, name, becomes, here⟩
      exact (members_spelled becomes o).symm.trans here

/-! ### Arguments and options -/

/-- Positional arguments are read in a fixed order. More than three are too many; otherwise the first wrong
one is reported, and if none is wrong, the options hold just what the arguments say. What an argument says is
about its own options, but for the default of the alternate port, which the primary endpoint decides. So
arguments stand for known options with both ports, and all such options can be spelled as arguments. -/
theorem options_read_arguments :
    (∀ args e, options args = .error e ↔
      (3 < args.length ∧ e = .tooManyArguments args.length) ∨ (args.length ≤ 3 ∧ FirstWrong args e)) ∧
    (∀ args o, options args = .ok o ↔
      args.length ≤ 3 ∧ (∀ p e, ¬ Wrong args p e) ∧
        ∀ key v, o.get? key = some v ↔ ∃ p, Says args p key v) ∧
    (∀ p args args' o o', (∀ r, r ≠ p → argument args r = argument args' r) →
      options args = .ok o → options args' = .ok o' → ∀ key, key ∉ owned p →
        (p = 0 → key = Key.alternatePort → givenPort (argument args 1) ≠ none) → o.get? key = o'.get? key) ∧
    (∀ args o, options args = .ok o → Complete o) ∧
    ∀ o, Complete o → options (spelled o) = .ok o :=
  ⟨fun _ _ => options_eq_error_iff, fun _ _ => options_eq_ok_iff,
    fun _ _ _ _ _ agree read read' _ other given => get?_options_congr agree read read' other given,
    fun _ _ => complete_of_options, fun _ => options_spelled⟩

/-- A primary port below zero, with a member that is no option, and a protocol. -/
def belowZero : List (Option Json) :=
  [some (.object [("colour", .string "red"), ("interface", .string "lo"),
    ("port", .number (.integer (-70000)))]), none, some (.string "tcp")]

/-- The largest port, then something that is no endpoint. -/
def largest : List (Option Json) := [some (.number (.integer 9223372036854775807)), some (.string "eth0")]

/-- The port below zero has a successor within the range, and its options can be spelled. The largest port has
no successor; an alternate endpoint of the wrong shape is reported as such, and one with a port is right. -/
theorem options_read_belowZero :
    (∃ o, options belowZero = .ok o ∧
      o.get? Key.alternatePort = some (.number (.integer 61073)) ∧ o.get? "colour" = none ∧
      (∃ p, Says belowZero p Key.protocol (.string "tcp")) ∧ options (spelled o) = .ok o) ∧
    FirstWrong (largest.take 1) (.portOutOfRange Key.primaryPort 9223372036854775807) ∧
    FirstWrong largest (.invalidEndpointArgument 1) ∧
    ∀ p e, ¬ Wrong (largest.take 1 ++ [some (.number (.integer 0))]) p e := by
  obtain ⟨errors, values, -, complete, spelling⟩ := options_read_arguments
  refine ⟨⟨_, rfl, rfl, rfl, ?_, spelling _ (complete belowZero _ rfl)⟩, ?_, ?_, ?_⟩
  · exact (((values belowZero _).1 rfl).2.2 Key.protocol (.string "tcp")).1 rfl
  · exact (((errors (largest.take 1) _).1 rfl).resolve_left (by simp [largest])).2
  · exact (((errors largest _).1 rfl).resolve_left (by simp [largest])).2
  · exact ((values _ _).1 rfl).2.1

end ServerTrials.Positional
