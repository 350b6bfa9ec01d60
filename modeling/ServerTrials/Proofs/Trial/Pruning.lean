import Mathlib.Data.List.Flatten
import ServerTrials.Proofs.Trial.Answers

/-!
Rules only prune, as long as what they skip may be left out.

The walk with rules and the walk without them visit different trees over the same fields. Where a rule skips
a field, the walk without rules branches, and its last branch leaves the field out as the skip does: what
comes after stands there, behind leaves that the rule has cut off. So below every node the leaves with rules
are among those without them, in the same order, up to the notes.
-/

namespace ServerTrials.Trial

/-- What a leaf asks of a server: its options, what is expected of them, and why it ends there. -/
def Leaf.demand (l : Leaf) : OptionMap × Expectation × CaseKind := (l.config, l.expected, l.kind)

/-- The rules skip none of the fields that are required. -/
def RuleSet.SparesRequired (s : RuleSet) (fs : List Field) : Prop :=
  ∀ f ∈ fs, ∀ r ∈ s.rules, f.key ∈ r.targets → f.optional = true

instance (s : RuleSet) (fs : List Field) : Decidable (s.SparesRequired fs) :=
  inferInstanceAs (Decidable (∀ f ∈ fs, ∀ r ∈ s.rules, f.key ∈ r.targets → f.optional = true))

variable {s : RuleSet} {f : Field} {fs : List Field} {o : OptionMap}

theorem RuleSet.SparesRequired.optional_of_skipping? {r : Rule} (spares : s.SparesRequired (f :: fs))
    (h : s.skipping? o f.key = some r) : f.optional = true := by
  rw [s.skipping?_eq_firstSkip?] at h
  obtain ⟨rule, declared, target, -⟩ := RuleSet.skips_of_firstSkip?_eq_some h
  exact spares f List.mem_cons_self rule declared target

theorem RuleSet.skipping?_empty (o : OptionMap) (key : String) : RuleSet.empty.skipping? o key = none :=
  rfl

/-! ### One field -/

/-- The error values of a field end the same cases whatever was noted before. -/
theorem map_demand_errors (f : Field) (o : OptionMap) (skips skips' : List Skip) :
    (f.errors.map fun v => (⟨o.insert f.key v, .reject, .errorValue f.key, skips⟩ : Leaf)).map Leaf.demand
      = (f.errors.map fun v =>
          (⟨o.insert f.key v, .reject, .errorValue f.key, skips'⟩ : Leaf)).map Leaf.demand := by
  rw [List.map_map, List.map_map]
  rfl

/-- Without rules a field that may be left out has the leaves for this at its end. -/
theorem sublist_expand_empty (optional : f.optional = true) (fs : List Field) (o : OptionMap)
    (skips : List Skip) : (expand .empty fs o skips).Sublist (expand .empty (f :: fs) o skips) := by
  rw [expand_cons_of_none (RuleSet.skipping?_empty o f.key), if_pos optional]
  exact List.sublist_append_right _ _

/-! ### All fields -/

/-- Below a node the leaves with rules are among those without, in their order. -/
theorem sublist_map_demand_expand (spares : s.SparesRequired fs) (o : OptionMap)
    (skips skips' : List Skip) :
    ((expand s fs o skips).map Leaf.demand).Sublist ((expand .empty fs o skips').map Leaf.demand) := by
  -- over the fields still to come, whatever was chosen and noted on either side before
  induction fs generalizing o skips with
  | nil => exact List.Sublist.refl _
  | cons f fs ih =>
    have later : s.SparesRequired fs := fun g hg => spares g (List.mem_cons_of_mem f hg)
    cases hr : s.skipping? o f.key with
    | some r =>
      have optional := spares.optional_of_skipping? hr
      rw [expand_cons_of_skip hr]
      exact (ih later o _).trans ((sublist_expand_empty optional fs o skips').map Leaf.demand)
    | none =>
      rw [expand_cons_of_none hr, expand_cons_of_none (RuleSet.skipping?_empty o f.key)]
      simp only [List.map_append, List.map_flatMap]
      refine List.Sublist.append (List.Sublist.append ?_ ?_) ?_
      · exact List.Sublist.flatMap_right _ fun v _ => ih later (o.insert f.key v) skips
      · rw [map_demand_errors f o skips skips']
      · split
        · exact ih later o skips
        · exact List.Sublist.refl _

namespace Table

/-- What the cases of a table ask of a server, in order. -/
def demands (t : Table) : List (OptionMap × Expectation × CaseKind) :=
  t.cases.map fun c => c.toLeaf.demand

theorem demands_eq (t : Table) : t.demands = t.leaves.map Leaf.demand := by
  rw [← t.map_toLeaf_cases, List.map_map]
  rfl

/-- Fields that form a table with rules form one without them. -/
theorem violation?_without_rules (t : Table) : violation? t.fields [] = none := by
  obtain ⟨fields, -⟩ := violation?_eq_none_iff.1 t.sound
  exact violation?_eq_none_iff.2 ⟨fields, distinct_nil _ _, fun r hr => absurd hr List.not_mem_nil⟩

theorem mem_demands_of_mem_cases {t : Table} {c : Case} (h : c ∈ t.cases) :
    (c.config, c.expected, c.kind) ∈ t.demands := List.mem_map_of_mem h

/-- If all that the rules of a table skip is optional, then its cases are some of those that the same fields
have without rules, in the same order and up to the notes. So the rules bring in no configuration, change no
verdict, and never make for more cases. -/
theorem rules_only_prune (t : Table) (spares : t.rules.SparesRequired t.fields) :
    ∃ bare, withoutRules t.fields = .ok bare ∧ t.demands.Sublist bare.demands ∧
      (∀ c ∈ t.cases, ∃ d ∈ bare.cases,
        d.config = c.config ∧ d.expected = c.expected ∧ d.kind = c.kind) ∧
      (∀ c ∈ t.cases, ∀ d ∈ bare.cases, (c.config == d.config) = true →
        d.expected = c.expected ∧ d.kind = c.kind) ∧
      t.cases.length ≤ bare.cases.length := by
  have sound := t.violation?_without_rules
  refine ⟨⟨t.fields, .ofList [], sound⟩, build_of_sound sound, ?_⟩
  generalize hbare : (⟨t.fields, .ofList [], sound⟩ : Table) = bare
  have sub : t.demands.Sublist bare.demands := by
    rw [demands_eq, demands_eq, ← hbare]
    exact sublist_map_demand_expand spares .empty [] []
  have among : ∀ c ∈ t.cases, ∃ d ∈ bare.cases,
      d.config = c.config ∧ d.expected = c.expected ∧ d.kind = c.kind := by
    intro c hc
    obtain ⟨d, hd, same⟩ := List.mem_map.1 (sub.subset (mem_demands_of_mem_cases hc))
    simp only [Leaf.demand, Prod.mk.injEq] at same
    exact ⟨d, hd, same⟩
  refine ⟨sub, among, fun c hc d hd same => ?_, ?_⟩
  · obtain ⟨c', hc', config, expected, kind⟩ := among c hc
    rw [← config] at same
    have kinds := kind_eq_of_same_options hc' hd same
    rw [← expected, ← kind, expected_of_mem_cases hc', expected_of_mem_cases hd, kinds]
    exact ⟨rfl, rfl⟩
  · have lengths := sub.length_le
    rwa [demands, demands, List.length_map, List.length_map] at lengths

-- The cascade's port is required: basic mode is accepted because a rule skips the port, and without the
-- rules nothing like it is.
example : cascadeBasic ∈ cascade.cases ∧
    ∀ l ∈ expand .empty cascade.fields .empty [], l.demand ≠ cascadeBasic.demand := by decide

/-- The cascade with a port that may be left out. -/
def lenientCascade : Table where
  fields := cascade.fields.map fun f => { f with optional := true }
  rules := cascade.rules
  sound := by decide

/-- Its rules keep eleven of thirty-one cases. -/
theorem pruned_lenientCascade :
    lenientCascade.rules.SparesRequired lenientCascade.fields ∧ lenientCascade.cases.length = 11 ∧
    ∃ bare, withoutRules lenientCascade.fields = .ok bare ∧ bare.cases.length = 31 ∧
      lenientCascade.demands.Sublist bare.demands := by
  have spares : lenientCascade.rules.SparesRequired lenientCascade.fields := by decide
  obtain ⟨bare, built, sub, -⟩ := rules_only_prune lenientCascade spares
  have count : (expand .empty lenientCascade.fields .empty []).length = 31 := by decide
  obtain rfl := Except.ok.inj ((build_of_sound lenientCascade.violation?_without_rules).symm.trans built)
  exact ⟨spares, by decide, _, built, by rwa [cases, List.length_mapIdx], sub⟩

end Table
end ServerTrials.Trial
