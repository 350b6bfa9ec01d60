import ServerTrials.Server.Options

/-!
Dependency rules between options.

A rule leaves some options out of a trial as long as a condition on the options chosen so far holds.
A rule set files the places of its rules under the keys they skip; of the rules filed under a key the first
whose condition holds decides.
-/

namespace ServerTrials.Trial

/-- A condition on the options chosen so far. -/
inductive Condition where
  /-- The option is there and has that value. -/
  | equals (key : String) (value : Json)
  /-- The option is left out or has another value. -/
  | differs (key : String) (value : Json)
  deriving DecidableEq, Repr

namespace Condition

/-- The option that a condition reads. -/
def key : Condition → String
  | .equals key _ => key
  | .differs key _ => key

/-- Whether the condition holds on the options. -/
def holds (o : OptionMap) : Condition → Bool
  | .equals key value => o.get? key == some value
  | .differs key value => !(o.get? key == some value)

end Condition

/-- A rule: while its condition holds, its targets are left out. -/
structure Rule where
  name : String
  condition : Condition
  targets : List String
  reason : String
  deriving DecidableEq, Repr

/-- The places of rules in their order, filed under the keys that the rules skip. -/
abbrev Rule.Index := List (String × List Nat)

namespace Rule.Index

/-- The index with a place filed last under a key. -/
def file (place : Nat) : Rule.Index → String → Rule.Index
  | [], key => [(key, [place])]
  | (k, places) :: rest, key =>
    if k = key then (k, places ++ [place]) :: rest else (k, places) :: file place rest key

/-- The index with the place of a rule filed under each of the rule's targets. -/
def fileAll (index : Rule.Index) (rule : Rule × Nat) : Rule.Index :=
  rule.1.targets.foldl (file rule.2) index

/-- The index of rules in their order. -/
def ofRules (rules : List Rule) : Rule.Index := rules.zipIdx.foldl fileAll []

/-- The places filed under a key. -/
def find (index : Rule.Index) (key : String) : List Nat :=
  match index with
  | [] => []
  | (k, places) :: rest => if k = key then places else find rest key

end Rule.Index

/-- Rules in their order, with their index. -/
structure RuleSet where
  rules : List Rule
  index : Rule.Index
  indexed : index = Rule.Index.ofRules rules

namespace RuleSet

/-- The set of these rules. -/
def ofList (rules : List Rule) : RuleSet := ⟨rules, Rule.Index.ofRules rules, rfl⟩

/-- The set without rules. -/
def empty : RuleSet := ofList []

/-- The rules filed under a key. -/
def filed (s : RuleSet) (key : String) : List Rule := (s.index.find key).filterMap fun i => s.rules[i]?

/-- The rule that leaves a key out, given the options chosen so far. -/
def skipping? (s : RuleSet) (o : OptionMap) (key : String) : Option Rule :=
  (s.filed key).find? fun r => r.condition.holds o

/-- Whether some rule skips or reads a key. -/
def references (s : RuleSet) (key : String) : Bool :=
  s.index.any (·.1 == key) || s.rules.any (·.condition.key == key)

end RuleSet
end ServerTrials.Trial
