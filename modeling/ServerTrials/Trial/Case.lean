import ServerTrials.Trial.Table

/-!
The cases of a table, in order.

The fields are decided one after another. A field that a rule skips is left out and the skip is noted.
Otherwise each acceptable value leads on to the next field; each error value ends a case that must be
rejected; and leaving the field out leads on if it is optional and else ends a case that must be
rejected. Past the last field stands a case that must be accepted.

The cases can be listed, or visited one by one by a walk that holds no list of them.
-/

namespace ServerTrials.Trial

/-- What a server should do with a configuration. -/
inductive Expectation where
  | accept
  | reject
  deriving DecidableEq, Repr

/-- The expectation as texts show it. -/
def Expectation.name : Expectation → String
  | .accept => "accept"
  | .reject => "reject"

/-- Why a case ends where it does. -/
inductive CaseKind where
  | valid
  | errorValue (key : String)
  | missingRequired (key : String)
  deriving DecidableEq, Repr

/-- The note that a rule left a field out. -/
structure Skip where
  key : String
  rule : String
  reason : String
  deriving DecidableEq, Repr

/-- The text of a note. -/
def Skip.text (s : Skip) : String := "skipped " ++ s.key ++ " (" ++ s.rule ++ ": " ++ s.reason ++ ")"

/-- A configuration with what is expected of it, before it is numbered. -/
structure Leaf where
  config : OptionMap
  expected : Expectation
  kind : CaseKind
  skips : List Skip
  deriving DecidableEq

/-- A numbered configuration with what is expected of it. -/
structure Case extends Leaf where
  ordinal : Nat
  deriving DecidableEq

namespace Case

/-- Whether a rule left that key out on the way to the case. -/
def skipped (c : Case) (key : String) : Bool := c.skips.any (·.key == key)

/-- The text of a case. -/
def text (c : Case) : String :=
  "#" ++ toString c.ordinal ++ " " ++ c.config.text ++ " -> " ++ c.expected.name

end Case

/-- The leaves below the options and skips chosen so far, for the fields still to be decided. -/
def expand (rules : RuleSet) : List Field → OptionMap → List Skip → List Leaf
  | [], o, skips => [⟨o, .accept, .valid, skips⟩]
  | f :: fs, o, skips =>
    match rules.skipping? o f.key with
    | some r => expand rules fs o (skips ++ [⟨f.key, r.name, r.reason⟩])
    | none =>
      f.acceptable.flatMap (fun v => expand rules fs (o.insert f.key v) skips)
        ++ f.errors.map (fun v => ⟨o.insert f.key v, .reject, .errorValue f.key, skips⟩)
        ++ if f.optional then expand rules fs o skips
           else [⟨o, .reject, .missingRequired f.key, skips⟩]

section Visiting

variable {α : Type}

/-- Hands a leaf to a visitor as the next case. The pair holds the number of that case and what the
visitor has made of the cases before it. -/
def emit (visit : α → Case → α) (acc : Nat × α) (leaf : Leaf) : Nat × α :=
  (acc.1 + 1, visit acc.2 { leaf with ordinal := acc.1 })

/-- The walk of `expand` that hands every leaf to a visitor when it comes to it. -/
def walk (visit : α → Case → α) (rules : RuleSet) :
    List Field → OptionMap → List Skip → Nat × α → Nat × α
  | [], o, skips, acc => emit visit acc ⟨o, .accept, .valid, skips⟩
  | f :: fs, o, skips, acc =>
    match rules.skipping? o f.key with
    | some r => walk visit rules fs o (skips ++ [⟨f.key, r.name, r.reason⟩]) acc
    | none =>
      let acc := f.acceptable.foldl (fun acc v => walk visit rules fs (o.insert f.key v) skips acc) acc
      let acc := f.errors.foldl (fun acc v =>
        emit visit acc ⟨o.insert f.key v, .reject, .errorValue f.key, skips⟩) acc
      if f.optional then walk visit rules fs o skips acc
      else emit visit acc ⟨o, .reject, .missingRequired f.key, skips⟩

end Visiting

namespace Table

/-- The leaves of a table in order. -/
def leaves (t : Table) : List Leaf := expand t.rules t.fields .empty []

/-- The cases of a table: its leaves, numbered from zero. -/
def cases (t : Table) : List Case := t.leaves.mapIdx fun i leaf => { leaf with ordinal := i }

/-- Visits the cases of a table one by one as they are generated, and answers how many there are beside
what the visitor made of them. -/
def generate {α : Type} (t : Table) (visit : α → Case → α) (init : α) : Nat × α :=
  walk visit t.rules t.fields .empty [] (0, init)

end Table
end ServerTrials.Trial
