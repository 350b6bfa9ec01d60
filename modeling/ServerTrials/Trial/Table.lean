import ServerTrials.Trial.Rule

/-!
Tables of fields: the options a trial varies, the values it tries for each, and the rules between them.

A table is built only if no key, no rule name and no value of a field occurs in two roles, and if every
rule reads a field that stands before the ones it skips. The first violation is the answer otherwise:
fields come first, in their order, then rules in theirs.
-/

namespace ServerTrials.Trial

/-- The values to try for one option. Any of the error values makes every configuration invalid. -/
structure Field where
  key : String
  acceptable : List Json
  errors : List Json
  optional : Bool
  deriving DecidableEq, Repr

/-- What keeps fields and rules from forming a table. -/
inductive TableError where
  | duplicateKey (key : String)
  | overlappingValue (key value : String)
  | unknownKey (rule key : String)
  | lookAhead (rule trigger target : String)
  | duplicateRule (rule : String)
  deriving DecidableEq, Repr

/-- The wording of a violation. -/
def TableError.message : TableError → String
  | .duplicateKey key => "duplicate field key: " ++ key
  | .overlappingValue key value =>
    "field " ++ key ++ " lists " ++ value ++ " as both acceptable and an error"
  | .unknownKey rule key => "rule " ++ rule ++ " references unknown key " ++ key
  | .lookAhead rule trigger target =>
    "rule " ++ rule ++ " triggers on " ++ trigger ++ " which is not declared before " ++ target
  | .duplicateRule rule => "duplicate rule name: " ++ rule

namespace Table

/-- The violation of a field, given the keys before it. -/
def fieldViolation? (seen : List String) (f : Field) : Option TableError :=
  if f.key ∈ seen then some (.duplicateKey f.key)
  else (f.errors.find? fun v => f.acceptable.contains v).map fun v => .overlappingValue f.key v.text

/-- The first violation of the fields, given the keys before them. -/
def fieldsViolation? (seen : List String) : List Field → Option TableError
  | [] => none
  | f :: fs =>
    match fieldViolation? seen f with
    | some e => some e
    | none => fieldsViolation? (f.key :: seen) fs

/-- The violation of a rule at one of its targets; the rule's trigger stands at place `trigger`. -/
def targetViolation? (keys : List String) (r : Rule) (trigger : Nat) (target : String) :
    Option TableError :=
  match keys.idxOf? target with
  | none => some (.unknownKey r.name target)
  | some place =>
    if place ≤ trigger then some (.lookAhead r.name r.condition.key target) else none

/-- The violation of a rule, given the names of the rules before it. -/
def ruleViolation? (keys seen : List String) (r : Rule) : Option TableError :=
  if r.name ∈ seen then some (.duplicateRule r.name)
  else
    match keys.idxOf? r.condition.key with
    | none => some (.unknownKey r.name r.condition.key)
    | some trigger => r.targets.findSome? (targetViolation? keys r trigger)

/-- The first violation of the rules, given the names of those before them. -/
def rulesViolation? (keys seen : List String) : List Rule → Option TableError
  | [] => none
  | r :: rs =>
    match ruleViolation? keys seen r with
    | some e => some e
    | none => rulesViolation? keys (r.name :: seen) rs

/-- The first violation of fields and rules. -/
def violation? (fields : List Field) (rules : List Rule) : Option TableError :=
  match fieldsViolation? [] fields with
  | some e => some e
  | none => rulesViolation? (fields.map (·.key)) [] rules

end Table

/-- Fields and rules without a violation. -/
structure Table where
  fields : List Field
  rules : RuleSet
  sound : Table.violation? fields rules.rules = none

namespace Table

/-- The table of these fields and rules, or their first violation. -/
def build (fields : List Field) (rules : List Rule) : Except TableError Table :=
  match h : violation? fields rules with
  | some e => .error e
  | none => .ok ⟨fields, .ofList rules, h⟩

/-- The table of these fields without rules. -/
def withoutRules (fields : List Field) : Except TableError Table := build fields []

/-- The keys of the fields. -/
def keys (t : Table) : List String := t.fields.map (·.key)

/-- The place of the field with that key. -/
def position? (t : Table) (key : String) : Option Nat := t.keys.idxOf? key

/-! ### Counting -/

/-- The largest count that is told; larger ones show as this. -/
def countLimit : Nat := 18446744073709551615

/-- A sum that stops at the limit. -/
def addLimited (a b : Nat) : Nat := min (a + b) countLimit

/-- A product that stops at the limit. -/
def mulLimited (a b : Nat) : Nat := min (a * b) countLimit

/-- The cases from a field on, given those from the next one on. -/
def countFrom (f : Field) (later : Nat) : Nat :=
  let branches := f.acceptable.length + if f.optional then 1 else 0
  addLimited (addLimited (mulLimited branches later) f.errors.length) (if f.optional then 0 else 1)

/-- How many cases the fields have if no rule leaves one out. -/
def expectedCaseCount (t : Table) : Nat := t.fields.foldr countFrom 1

end Table
end ServerTrials.Trial
