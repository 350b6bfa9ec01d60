import Mathlib.Data.List.Nodup
import ServerTrials.Proofs.Trial.Tables

/-!
Which fields and rules form a table, and which violation is told of the others.

`Valid` and `WrongAt` are conditions on the input alone: they speak of places in it and not of what a check
has seen before it comes there. The spots where the input can be wrong have an order, fields before rules, and
at most one error each. The checks stop at the first spot that is wrong: what stands before it would form a
table on its own, so nothing is wrong there.
-/

namespace ServerTrials.Trial

/-- The rule reads one of the keys, and that one stands before all that it skips. -/
def Rule.Ordered (r : Rule) (keys : List String) : Prop :=
  ∃ i : Nat, keys[i]? = some r.condition.key ∧
    ∀ target ∈ r.targets, ∃ j : Nat, keys[j]? = some target ∧ i < j

theorem idxOf?_eq_some_iff_of_nodup {keys : List String} (nodup : keys.Nodup) {key : String} {i : Nat} :
    keys.idxOf? key = some i ↔ keys[i]? = some key := by
  rw [List.idxOf?_eq_some_iff, List.getElem?_eq_some_iff]
  constructor
  · rintro ⟨hi, here, -⟩
    exact ⟨hi, here⟩
  · rintro ⟨hi, here⟩
    refine ⟨hi, here, fun j hj there => ?_⟩
    exact Nat.ne_of_lt hj (nodup.getElem_inj_iff.1 (there.trans here.symm))

/-- Where no key comes twice, its first place is its place. -/
theorem Rule.looksBack_iff_ordered {r : Rule} {keys : List String} (nodup : keys.Nodup) :
    r.LooksBack keys ↔ r.Ordered keys := by
  simp only [LooksBack, Ordered, idxOf?_eq_some_iff_of_nodup nodup]

namespace Table

/-! ### Valid input -/

/-- No two fields have one key, no value of a field is in two roles, no two rules have one name, and each rule
reads a key that stands before all that it skips. -/
structure Valid (fields : List Field) (rules : List Rule) : Prop where
  keys : (fields.map (·.key)).Nodup
  values : ∀ f ∈ fields, f.Separated
  names : (rules.map (·.name)).Nodup
  ordered : ∀ r ∈ rules, r.Ordered (fields.map (·.key))

theorem distinct_nil_iff {α : Type} {name : α → String} {xs : List α} :
    Distinct name [] xs ↔ (xs.map name).Nodup := by
  simp [Distinct]

variable {fields : List Field} {rules : List Rule} {e e' : TableError}

theorem fieldsViolation?_eq_none_iff_valid : fieldsViolation? [] fields = none ↔ Valid fields [] := by
  rw [fieldsViolation?_eq_none_iff, distinct_nil_iff]
  constructor
  · rintro ⟨keys, values⟩
    exact ⟨keys, values, List.nodup_nil, fun r hr => absurd hr List.not_mem_nil⟩
  · intro valid
    exact ⟨valid.keys, valid.values⟩

theorem violation?_eq_none_iff_valid : violation? fields rules = none ↔ Valid fields rules := by
  rw [violation?_eq_none_iff, distinct_nil_iff, distinct_nil_iff]
  constructor
  · rintro ⟨⟨keys, values⟩, names, back⟩
    exact ⟨keys, values, names, fun r hr => (Rule.looksBack_iff_ordered keys).1 (back r hr)⟩
  · intro valid
    exact ⟨⟨valid.keys, valid.values⟩, valid.names,
      fun r hr => (Rule.looksBack_iff_ordered valid.keys).2 (valid.ordered r hr)⟩

theorem Valid.rulesViolation?_eq_none_iff (valid : Valid fields []) :
    rulesViolation? (fields.map (·.key)) [] rules = none ↔ Valid fields rules := by
  rw [← violation?_eq_none_iff_valid, violation?, fieldsViolation?_eq_none_iff_valid.2 valid]

/-! ### Wrong input -/

/-- A spot where the input can be wrong, told by places in it. -/
inductive Spot where
  /-- The key of a field. -/
  | key (field : Nat)
  /-- An error value of a field. -/
  | value (field value : Nat)
  /-- The name of a rule. -/
  | name (rule : Nat)
  /-- The key that a rule reads. -/
  | trigger (rule : Nat)
  /-- A key that a rule skips. -/
  | target (rule target : Nat)
  deriving DecidableEq, Repr

/-- A spot as numbers: fields are before rules, each in its order, and of one field or rule the key or the name
is before the rest. -/
def Spot.numbers : Spot → List Nat
  | .key i => [0, i]
  | .value i j => [0, i, j]
  | .name i => [1, i]
  | .trigger i => [1, i, 0]
  | .target i j => [1, i, j + 1]

/-- The order of spots: the lexicographic order of their numbers. -/
def Spot.Before (a b : Spot) : Prop := a.numbers < b.numbers

/-- The input is wrong at a spot, which the error tells of. -/
inductive WrongAt (fields : List Field) (rules : List Rule) : Spot → TableError → Prop where
  | repeatedKey {i : Nat} {f : Field} (field : fields[i]? = some f)
    (before : f.key ∈ (fields.take i).map (·.key)) :
    WrongAt fields rules (.key i) (.duplicateKey f.key)
  | overlap {i j : Nat} {f : Field} {v : Json} (field : fields[i]? = some f)
    (value : f.errors[j]? = some v) (acceptable : f.acceptable.contains v = true) :
    WrongAt fields rules (.value i j) (.overlappingValue f.key v.text)
  | repeatedName {i : Nat} {r : Rule} (rule : rules[i]? = some r)
    (before : r.name ∈ (rules.take i).map (·.name)) :
    WrongAt fields rules (.name i) (.duplicateRule r.name)
  | unknownTrigger {i : Nat} {r : Rule} (rule : rules[i]? = some r)
    (unknown : r.condition.key ∉ fields.map (·.key)) :
    WrongAt fields rules (.trigger i) (.unknownKey r.name r.condition.key)
  | unknownTarget {i j : Nat} {r : Rule} {target : String} (rule : rules[i]? = some r)
    (here : r.targets[j]? = some target) (unknown : target ∉ fields.map (·.key)) :
    WrongAt fields rules (.target i j) (.unknownKey r.name target)
  | lookAhead {i j k l : Nat} {r : Rule} {target : String} (rule : rules[i]? = some r)
    (here : r.targets[j]? = some target) (trigger : (fields.map (·.key))[k]? = some r.condition.key)
    (place : (fields.map (·.key))[l]? = some target) (notBefore : l ≤ k) :
    WrongAt fields rules (.target i j) (.lookAhead r.name r.condition.key target)

/-- The first spot at which the input is wrong. -/
structure FirstWrong (fields : List Field) (rules : List Rule) (spot : Spot) (e : TableError) : Prop where
  wrong : WrongAt fields rules spot e
  first : ∀ {other : Spot} {e' : TableError}, other.Before spot → ¬ WrongAt fields rules other e'

variable {spot other : Spot}

theorem not_mem_take {α : Type} {name : α → String} {xs : List α} (nodup : (xs.map name).Nodup) {i : Nat}
    {x : α} (here : xs[i]? = some x) : name x ∉ (xs.take i).map name := by
  intro before
  rw [List.map_take] at before
  obtain ⟨j, hj, same⟩ := List.mem_take_iff_getElem.1 before
  obtain ⟨hi, rfl⟩ := List.getElem?_eq_some_iff.1 here
  rw [← List.getElem_map name (h := by simpa using hi)] at same
  have ji := nodup.getElem_inj_iff.1 same
  omega

/-- Valid input is wrong nowhere. -/
theorem Valid.not_wrongAt (valid : Valid fields rules) : ¬ WrongAt fields rules spot e := by
  intro wrong
  cases wrong with
  | repeatedKey field before => exact not_mem_take valid.keys field before
  | overlap field value acceptable =>
    have apart := valid.values _ (List.mem_of_getElem? field) _ (List.mem_of_getElem? value)
    rw [apart] at acceptable
    contradiction
  | repeatedName rule before => exact not_mem_take valid.names rule before
  | unknownTrigger rule unknown =>
    obtain ⟨i, trigger, -⟩ := valid.ordered _ (List.mem_of_getElem? rule)
    exact unknown (List.mem_of_getElem? trigger)
  | unknownTarget rule here unknown =>
    obtain ⟨i, -, targets⟩ := valid.ordered _ (List.mem_of_getElem? rule)
    obtain ⟨j, place, -⟩ := targets _ (List.mem_of_getElem? here)
    exact unknown (List.mem_of_getElem? place)
  | lookAhead rule here trigger place notBefore =>
    obtain ⟨i, reads, targets⟩ := valid.ordered _ (List.mem_of_getElem? rule)
    obtain ⟨j, skips, lt⟩ := targets _ (List.mem_of_getElem? here)
    rw [← idxOf?_eq_some_iff_of_nodup valid.keys] at trigger place reads skips
    rw [trigger, Option.some.injEq] at reads
    rw [place, Option.some.injEq] at skips
    omega

/-- A spot has at most one error. -/
theorem WrongAt.error_unique (h : WrongAt fields rules spot e) (h' : WrongAt fields rules spot e') :
    e = e' := by
  cases h with
  | repeatedKey field _ =>
    cases h' with
    | repeatedKey field' _ => rw [Option.some.inj (field.symm.trans field')]
  | overlap field value _ =>
    cases h' with
    | overlap field' value' _ =>
      obtain rfl := Option.some.inj (field.symm.trans field')
      rw [Option.some.inj (value.symm.trans value')]
  | repeatedName rule _ =>
    cases h' with
    | repeatedName rule' _ => rw [Option.some.inj (rule.symm.trans rule')]
  | unknownTrigger rule _ =>
    cases h' with
    | unknownTrigger rule' _ => rw [Option.some.inj (rule.symm.trans rule')]
  | unknownTarget rule here unknown =>
    cases h' with
    | unknownTarget rule' here' _ =>
      obtain rfl := Option.some.inj (rule.symm.trans rule')
      rw [Option.some.inj (here.symm.trans here')]
    | lookAhead rule' here' _ place _ =>
      obtain rfl := Option.some.inj (rule.symm.trans rule')
      obtain rfl := Option.some.inj (here.symm.trans here')
      exact absurd (List.mem_of_getElem? place) unknown
  | lookAhead rule here trigger place _ =>
    cases h' with
    | unknownTarget rule' here' unknown =>
      obtain rfl := Option.some.inj (rule.symm.trans rule')
      obtain rfl := Option.some.inj (here.symm.trans here')
      exact absurd (List.mem_of_getElem? place) unknown
    | lookAhead rule' here' _ _ _ =>
      obtain rfl := Option.some.inj (rule.symm.trans rule')
      rw [Option.some.inj (here.symm.trans here')]

theorem Spot.numbers_injective {a b : Spot} (h : a.numbers = b.numbers) : a = b := by
  cases a <;> cases b <;> simp_all [Spot.numbers]

/-- The first spot has one error. -/
theorem FirstWrong.error_unique (h : FirstWrong fields rules spot e)
    (h' : FirstWrong fields rules other e') : e = e' := by
  have same : spot = other :=
    Spot.numbers_injective (List.le_antisymm (fun lt => h.first lt h'.wrong) fun lt => h'.first lt h.wrong)
  subst same
  exact h.wrong.error_unique h'.wrong

/-! ### Where the checks stop -/

/-- The field that a spot is in. -/
def Spot.field? : Spot → Option Nat
  | .key i | .value i _ => some i
  | _ => none

/-- The rule that a spot is in. -/
def Spot.rule? : Spot → Option Nat
  | .name i | .trigger i | .target i _ => some i
  | _ => none

namespace Spot.Before

variable {n k : Nat}

theorem field_lt (lt : spot.Before (.key n)) : ∃ i < n, spot.field? = some i := by
  cases spot <;> simp_all [Before, numbers, field?, List.cons_lt_cons_iff]

theorem rule_lt (lt : spot.Before (.name n)) : ∀ i ∈ spot.rule?, i < n := by
  cases spot <;> simp_all [Before, numbers, rule?, List.cons_lt_cons_iff]

theorem of_value (lt : spot.Before (.value n k)) :
    spot.Before (.key n) ∨ spot = .key n ∨ ∃ j < k, spot = .value n j := by
  cases spot <;> simp_all [Before, numbers, List.cons_lt_cons_iff]
  omega

theorem of_trigger (lt : spot.Before (.trigger n)) : spot.Before (.name n) ∨ spot = .name n := by
  cases spot <;> simp_all [Before, numbers, List.cons_lt_cons_iff]

theorem of_target (lt : spot.Before (.target n k)) :
    spot.Before (.trigger n) ∨ spot = .trigger n ∨ ∃ j < k, spot = .target n j := by
  cases spot <;> simp_all [Before, numbers, List.cons_lt_cons_iff]
  omega

end Spot.Before

/-- What is wrong before the key of a field is wrong with the fields before it. -/
theorem WrongAt.of_before_key {before rest : List Field} (h : WrongAt (before ++ rest) rules spot e)
    (lt : spot.Before (.key before.length)) : WrongAt before [] spot e := by
  obtain ⟨i, hi, place⟩ := lt.field_lt
  cases h with
  | repeatedKey field mem =>
    obtain rfl := Option.some.inj place
    rw [List.getElem?_append_left hi] at field
    rw [List.take_append_of_le_length hi.le] at mem
    exact .repeatedKey field mem
  | overlap field value acceptable =>
    obtain rfl := Option.some.inj place
    rw [List.getElem?_append_left hi] at field
    exact .overlap field value acceptable
  | _ => contradiction

/-- What is wrong before the name of a rule is wrong with the fields or with the rules before it. -/
theorem WrongAt.of_before_name {before rest : List Rule} (h : WrongAt fields (before ++ rest) spot e)
    (lt : spot.Before (.name before.length)) : WrongAt fields before spot e := by
  have within := lt.rule_lt
  cases h with
  | repeatedKey field mem => exact .repeatedKey field mem
  | overlap field value acceptable => exact .overlap field value acceptable
  | repeatedName rule mem =>
    have hi := within _ rfl
    rw [List.getElem?_append_left hi] at rule
    rw [List.take_append_of_le_length hi.le] at mem
    exact .repeatedName rule mem
  | unknownTrigger rule unknown =>
    rw [List.getElem?_append_left (within _ rfl)] at rule
    exact .unknownTrigger rule unknown
  | unknownTarget rule here unknown =>
    rw [List.getElem?_append_left (within _ rfl)] at rule
    exact .unknownTarget rule here unknown
  | lookAhead rule here trigger place notBefore =>
    rw [List.getElem?_append_left (within _ rfl)] at rule
    exact .lookAhead rule here trigger place notBefore

/-- A scan that carries the names it has seen stops at the first item that it objects to. -/
theorem exists_first_of_scan {α : Type} {name : α → String}
    {check : List String → α → Option TableError} {scan : List String → List α → Option TableError}
    (nil : ∀ seen, scan seen [] = none)
    (cons : ∀ seen x xs, scan seen (x :: xs) = (check seen x).or (scan (name x :: seen) xs))
    {seen : List String} {xs : List α} (h : scan seen xs = some e) :
    ∃ before x after, xs = before ++ x :: after ∧ scan seen before = none ∧
      check ((before.map name).reverse ++ seen) x = some e := by
  induction xs generalizing seen with
  | nil => rw [nil] at h; contradiction
  | cons x xs ih =>
    rw [cons] at h
    cases hx : check seen x with
    | some e' =>
      rw [hx, Option.some_or] at h
      exact ⟨[], x, xs, rfl, nil seen, hx.trans h⟩
    | none =>
      rw [hx, Option.none_or] at h
      obtain ⟨before, y, after, rfl, fine, hy⟩ := ih h
      refine ⟨x :: before, y, after, rfl, ?_, ?_⟩
      · rw [cons, hx, Option.none_or, fine]
      · rwa [List.map_cons, List.reverse_cons, List.append_assoc, List.singleton_append]

/-- What is seen before an item are the names of the items that stand before it. -/
theorem mem_seen_iff {α : Type} {name : α → String} {before after : List α} {x : α} :
    name x ∈ (before.map name).reverse ++ [] ↔
      name x ∈ ((before ++ x :: after).take before.length).map name := by
  rw [List.append_nil, List.mem_reverse, List.take_left]

theorem exists_firstWrong_of_fieldViolation? {before after : List Field} {f : Field}
    (valid : Valid before []) (h : fieldViolation? ((before.map (·.key)).reverse ++ []) f = some e) :
    ∃ spot, FirstWrong (before ++ f :: after) rules spot e := by
  have here : (before ++ f :: after)[before.length]? = some f := by simp
  have earlier : ∀ {other e'}, other.Before (.key before.length) →
      ¬ WrongAt (before ++ f :: after) rules other e' :=
    fun lt wrong => valid.not_wrongAt (wrong.of_before_key lt)
  rw [fieldViolation?] at h
  split at h
  next seen =>
    obtain rfl := Option.some.inj h
    exact ⟨_, .repeatedKey here (mem_seen_iff.1 seen), earlier⟩
  next fresh =>
    obtain ⟨v, found, rfl⟩ := Option.map_eq_some_iff.1 h
    obtain ⟨acceptable, vs, ws, split, first⟩ := List.find?_eq_some_iff_append.1 found
    refine ⟨.value before.length vs.length, .overlap here (by simp [split]) acceptable, ?_⟩
    intro other e' lt wrong
    rcases lt.of_value with lt | rfl | ⟨j, hj, rfl⟩
    · exact earlier lt wrong
    · cases wrong with
      | repeatedKey field mem =>
        obtain rfl := Option.some.inj (here.symm.trans field)
        exact fresh (mem_seen_iff.2 mem)
    · cases wrong with
      | overlap field value listed =>
        obtain rfl := Option.some.inj (here.symm.trans field)
        rw [split, List.getElem?_append_left hj] at value
        have unlisted := first _ (List.mem_of_getElem? value)
        rw [listed] at unlisted
        contradiction

/-- At a target of a rule whose trigger is known, what is wrong is what the check objects to. -/
theorem wrongAt_target_iff {i j k : Nat} {r : Rule} {target : String}
    (nodup : (fields.map (·.key)).Nodup) (rule : rules[i]? = some r) (here : r.targets[j]? = some target)
    (trigger : (fields.map (·.key))[k]? = some r.condition.key) :
    WrongAt fields rules (.target i j) e ↔ targetViolation? (fields.map (·.key)) r k target = some e := by
  rw [targetViolation?]
  constructor
  · intro wrong
    cases wrong with
    | unknownTarget rule' here' unknown =>
      obtain rfl := Option.some.inj (rule.symm.trans rule')
      obtain rfl := Option.some.inj (here.symm.trans here')
      rw [List.idxOf?_eq_none_iff.2 unknown]
    | lookAhead rule' here' trigger' place notBefore =>
      obtain rfl := Option.some.inj (rule.symm.trans rule')
      obtain rfl := Option.some.inj (here.symm.trans here')
      rw [← idxOf?_eq_some_iff_of_nodup nodup] at trigger trigger' place
      obtain rfl := Option.some.inj (trigger.symm.trans trigger')
      rw [place]
      exact if_pos notBefore
  · intro h
    cases found : (fields.map (·.key)).idxOf? target with
    | none =>
      rw [found] at h
      obtain rfl := Option.some.inj h
      exact .unknownTarget rule here (List.idxOf?_eq_none_iff.1 found)
    | some place =>
      rw [found] at h
      obtain ⟨notBefore, told⟩ := Option.ite_none_right_eq_some.1 h
      obtain rfl := Option.some.inj told
      exact .lookAhead rule here trigger ((idxOf?_eq_some_iff_of_nodup nodup).1 found) notBefore

theorem exists_firstWrong_of_ruleViolation? {before after : List Rule} {r : Rule}
    (valid : Valid fields before)
    (h : ruleViolation? (fields.map (·.key)) ((before.map (·.name)).reverse ++ []) r = some e) :
    ∃ spot, FirstWrong fields (before ++ r :: after) spot e := by
  have here : (before ++ r :: after)[before.length]? = some r := by simp
  have earlier : ∀ {other e'}, other.Before (.name before.length) →
      ¬ WrongAt fields (before ++ r :: after) other e' :=
    fun lt wrong => valid.not_wrongAt (wrong.of_before_name lt)
  rw [ruleViolation?] at h
  split at h
  next seen =>
    obtain rfl := Option.some.inj h
    exact ⟨_, .repeatedName here (mem_seen_iff.1 seen), earlier⟩
  next fresh =>
    have upToName : ∀ {other e'}, other.Before (.trigger before.length) →
        ¬ WrongAt fields (before ++ r :: after) other e' := by
      intro other e' lt wrong
      rcases lt.of_trigger with lt | rfl
      · exact earlier lt wrong
      · cases wrong with
        | repeatedName rule mem =>
          obtain rfl := Option.some.inj (here.symm.trans rule)
          exact fresh (mem_seen_iff.2 mem)
    split at h
    next unknown =>
      obtain rfl := Option.some.inj h
      exact ⟨_, .unknownTrigger here (List.idxOf?_eq_none_iff.1 unknown), upToName⟩
    next trigger known =>
      obtain ⟨ts, target, us, split, objection, first⟩ := List.findSome?_eq_some_iff.1 h
      have reads := (idxOf?_eq_some_iff_of_nodup valid.keys).1 known
      have there : r.targets[ts.length]? = some target := by simp [split]
      refine ⟨.target before.length ts.length,
        (wrongAt_target_iff valid.keys here there reads).2 objection, ?_⟩
      intro other e' lt wrong
      rcases lt.of_target with lt | rfl | ⟨j, hj, rfl⟩
      · exact upToName lt wrong
      · cases wrong with
        | unknownTrigger rule unknown =>
          obtain rfl := Option.some.inj (here.symm.trans rule)
          exact unknown (List.mem_of_getElem? reads)
      · have earlierTarget : r.targets[j]? = some ts[j] := by
          rw [split, List.getElem?_append_left hj, List.getElem?_eq_getElem hj]
        have objects := (wrongAt_target_iff valid.keys here earlierTarget reads).1 wrong
        rw [first _ (List.getElem_mem hj)] at objects
        contradiction

/-- The violation that is told stands at the first spot that is wrong. -/
theorem exists_firstWrong_of_violation? (h : violation? fields rules = some e) :
    ∃ spot, FirstWrong fields rules spot e := by
  rw [violation?] at h
  cases hf : fieldsViolation? [] fields with
  | some e' =>
    rw [hf, Option.some.injEq] at h
    rw [h] at hf
    obtain ⟨before, f, after, rfl, fine, objection⟩ :=
      exists_first_of_scan (fun _ => rfl) fieldsViolation?_cons hf
    exact exists_firstWrong_of_fieldViolation? (fieldsViolation?_eq_none_iff_valid.1 fine) objection
  | none =>
    rw [hf] at h
    have valid := fieldsViolation?_eq_none_iff_valid.1 hf
    obtain ⟨before, r, after, rfl, fine, objection⟩ :=
      exists_first_of_scan (fun _ => rfl) rulesViolation?_cons h
    exact exists_firstWrong_of_ruleViolation? (valid.rulesViolation?_eq_none_iff.1 fine) objection

theorem violation?_eq_some_iff :
    violation? fields rules = some e ↔ ∃ spot, FirstWrong fields rules spot e := by
  constructor
  · exact exists_firstWrong_of_violation?
  · rintro ⟨spot, first⟩
    cases h : violation? fields rules with
    | none => exact absurd first.wrong (violation?_eq_none_iff_valid.1 h).not_wrongAt
    | some e' =>
      obtain ⟨other, first'⟩ := exists_firstWrong_of_violation? h
      rw [first.error_unique first']

/-! ### Tables -/

theorem build_eq_error_iff : build fields rules = .error e ↔ violation? fields rules = some e := by
  rw [build]
  split
  next e' h => rw [h, Except.error.injEq, Option.some.injEq]
  next h => simp [h]

/-- A table that is built has the fields and rules in their order. -/
theorem of_build_eq_ok {t : Table} (h : build fields rules = .ok t) :
    violation? fields rules = none ∧ t.fields = fields ∧ t.rules.rules = rules := by
  rw [build] at h
  split at h
  next => contradiction
  next fine =>
    obtain rfl := Except.ok.inj h
    exact ⟨fine, rfl, rfl⟩

theorem position?_eq_some_iff (t : Table) {key : String} {i : Nat} :
    t.position? key = some i ↔ ∃ f, t.fields[i]? = some f ∧ f.key = key := by
  rw [position?, idxOf?_eq_some_iff_of_nodup t.keys_nodup, keys, List.getElem?_map, Option.map_eq_some_iff]

/-- Fields and rules form a table iff they are valid; the table has them in their order, and finds a key at the
place of its field. What is told otherwise is wrong at some spot, and nothing is wrong at a spot before it. -/
theorem build_decides (fields : List Field) (rules : List Rule) :
    ((∃ t, build fields rules = .ok t) ↔ Valid fields rules) ∧
    (∀ t, build fields rules = .ok t → t.fields = fields ∧ t.rules.rules = rules ∧
      ∀ key i, t.position? key = some i ↔ ∃ f, fields[i]? = some f ∧ f.key = key) ∧
    ∀ e, build fields rules = .error e ↔ ∃ spot, WrongAt fields rules spot e ∧
      ∀ other e', other.Before spot → ¬ WrongAt fields rules other e' := by
  refine ⟨?_, fun t built => ?_, fun e => ?_⟩
  · rw [← violation?_eq_none_iff_valid]
    constructor
    · rintro ⟨t, built⟩
      exact (of_build_eq_ok built).1
    · intro fine
      exact ⟨_, build_of_sound fine⟩
  · obtain ⟨-, rfl, rules⟩ := of_build_eq_ok built
    exact ⟨rfl, rules, fun key i => t.position?_eq_some_iff⟩
  · rw [build_eq_error_iff, violation?_eq_some_iff]
    constructor
    · rintro ⟨spot, first⟩
      exact ⟨spot, first.wrong, fun _ _ => first.first⟩
    · rintro ⟨spot, wrong, first⟩
      exact ⟨spot, wrong, first _ _⟩

/-- Rules of one name, of which the first looks ahead at one target and does not know the next, and the second
reads a key that it does not know. -/
def disordered : List Rule :=
  [⟨"twice", .equals Key.alternateInterface .null, [Key.alternateInterface, "port"], "looks ahead"⟩,
    ⟨"twice", .equals "port" .null, [], "unknown"⟩]

/-- The cascade is a table, in which the port is the second field. With the other rules its fields are none, and
what is told is that the first rule looks ahead. -/
theorem build_decides_cascade :
    (build cascade.fields cascade.rules.rules = .ok cascade ∧ Valid cascade.fields cascade.rules.rules ∧
      cascade.position? Key.alternatePort = some 1) ∧
    build cascade.fields disordered
      = .error (.lookAhead "twice" Key.alternateInterface Key.alternateInterface) ∧
    ∃ spot, WrongAt cascade.fields disordered spot
        (.lookAhead "twice" Key.alternateInterface Key.alternateInterface) ∧
      ∀ other e', other.Before spot → ¬ WrongAt cascade.fields disordered other e' := by
  have built : build cascade.fields cascade.rules.rules = .ok cascade := build_of_sound cascade.sound
  have refused : build cascade.fields disordered
      = .error (.lookAhead "twice" Key.alternateInterface Key.alternateInterface) :=
    build_eq_error_iff.2 (by decide)
  obtain ⟨ok, sound, -⟩ := build_decides cascade.fields cascade.rules.rules
  exact ⟨⟨built, ok.1 ⟨cascade, built⟩, ((sound cascade built).2.2 _ _).2 ⟨_, rfl, rfl⟩⟩, refused,
    ((build_decides cascade.fields disordered).2.2 _).1 refused⟩

end Table
end ServerTrials.Trial
