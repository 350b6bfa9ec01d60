import Mathlib.Algebra.GroupWithZero.Nat
import ServerTrials.Proofs.Trial.Choices

/-!
The leaves of a table, counted by their kind and their options.

The walk asks the rules on the options chosen so far. What it has chosen stays as it is, and the rules for
the next field read none of the keys to come, so they answer as they would on the final options: the count
of the leaves with given options is their multiplicity, which only looks at these options.
-/

namespace ServerTrials.Trial

/-- The leaf is of this kind and has these options. -/
def Leaf.fits (kind : CaseKind) (o : OptionMap) (l : Leaf) : Bool :=
  decide (l.kind = kind) && l.config == o

theorem Leaf.fits_iff {kind : CaseKind} {o : OptionMap} {l : Leaf} :
    l.fits kind o = true ↔ l.kind = kind ∧ (l.config == o) = true := by
  simp [Leaf.fits]

section

-- whether maps agree away from some keys is asked of all other keys
open scoped Classical

/-! ### Choosing one field -/

/-- Of the values for a name, those that bring the options towards `p` are the ones that `p` has. -/
theorem countP_agreeOff_insert {name : String} {names : List String} (fresh : name ∉ names)
    (o p : OptionMap) (values : List Json) :
    values.countP (fun v => OptionMap.AgreeOff names (o.insert name v) p)
      = if OptionMap.AgreeOff (name :: names) o p then occurrencesIn values (p.get? name) else 0 := by
  simp only [OptionMap.agreeOff_insert_iff fresh]
  by_cases agree : OptionMap.AgreeOff (name :: names) o p
  · cases p.get? name with
    | none => simp [occurrencesIn]
    | some w => simp [agree, occurrencesIn, List.count]
  · simp [agree]

theorem sum_map_ite {α : Type} (p : α → Prop) [DecidablePred p] (n : Nat) :
    ∀ l : List α, (l.map fun a => if p a then n else 0).sum = l.countP p * n
  | [] => by simp
  | a :: l => by
    rw [List.map_cons, List.sum_cons, sum_map_ite p n l, List.countP_cons]
    by_cases h : p a <;> simp [h, Nat.add_mul, Nat.add_comm]

variable {s : RuleSet} {fs : List Field} {f : Field} {o p : OptionMap} {skips : List Skip}
  {kind : CaseKind}

/-- What the walk asks the rules is what they say about any options that it can still reach. -/
theorem skipping?_eq_of_agreeOff (wf : WellOrdered s (f :: fs))
    (agree : OptionMap.AgreeOff ((f :: fs).map (·.key)) o p) :
    s.skipping? o f.key = s.firstSkip? p f.key := by
  cases wf with
  | cons fresh separated back rest =>
    rw [s.skipping?_eq_firstSkip?]
    exact RuleSet.firstSkip?_congr fun r hr target => agree _ (back r hr target)

theorem unset_iff : Unset o fs ↔ ∀ key ∈ fs.map (·.key), o.get? key = none := by
  rw [Unset, List.forall_mem_map]

theorem Unset.of_cons (h : Unset o (f :: fs)) : Unset o fs := (List.forall_mem_cons.1 h).2

theorem Unset.insert (h : Unset o fs) (fresh : f.key ∉ fs.map (·.key)) (v : Json) :
    Unset (o.insert f.key v) fs := fun g hg => by
  rw [OptionMap.get?_insert, if_neg fun e => fresh (by rw [e]; exact List.mem_map_of_mem hg)]
  exact h g hg

/-- The map is the other one iff they agree so far and the other one has none of the fields to come. -/
theorem Unset.beq_iff (h : Unset o fs) :
    (o == p) = true ↔ OptionMap.AgreeOff (fs.map (·.key)) o p ∧ Unset p fs := by
  rw [unset_iff, OptionMap.beq_iff_agreeOff (unset_iff.1 h)]

/-- Leaves that end at a field with an error value. -/
theorem countP_errors (unset : Unset o fs) (fresh : f.key ∉ fs.map (·.key)) :
    (f.errors.map fun v => (⟨o.insert f.key v, .reject, .errorValue f.key, skips⟩ : Leaf)).countP
        (Leaf.fits kind p)
      = if OptionMap.AgreeOff ((f :: fs).map (·.key)) o p ∧ Unset p fs ∧ kind = .errorValue f.key
        then occurrencesIn f.errors (p.get? f.key) else 0 := by
  rw [List.countP_map]
  by_cases h : Unset p fs ∧ kind = .errorValue f.key
  · have same : ∀ v, (Leaf.fits kind p ∘ fun v =>
        (⟨o.insert f.key v, .reject, .errorValue f.key, skips⟩ : Leaf)) v
          = decide (OptionMap.AgreeOff (fs.map (·.key)) (o.insert f.key v) p) := fun v => by
      rw [Bool.eq_iff_iff, Function.comp_apply, Leaf.fits_iff, (unset.insert fresh v).beq_iff,
        decide_eq_true_iff]
      simp [h]
    rw [List.countP_congr fun v _ => by rw [same v], countP_agreeOff_insert fresh]
    simp [h]
  · have none_fits : ∀ v ∈ f.errors, ¬ (Leaf.fits kind p ∘ fun v =>
        (⟨o.insert f.key v, .reject, .errorValue f.key, skips⟩ : Leaf)) v = true := fun v _ fits => by
      rw [Function.comp_apply, Leaf.fits_iff, (unset.insert fresh v).beq_iff] at fits
      exact h ⟨fits.2.2, fits.1.symm⟩
    rw [List.countP_eq_zero.2 none_fits, if_neg fun hc => h hc.2]

/-- The leaf that ends at a required field by leaving it out. -/
theorem countP_missing (unset : Unset o (f :: fs)) :
    [(⟨o, .reject, .missingRequired f.key, skips⟩ : Leaf)].countP (Leaf.fits kind p)
      = if OptionMap.AgreeOff ((f :: fs).map (·.key)) o p ∧ Unset p fs ∧ p.get? f.key = none
          ∧ kind = .missingRequired f.key then 1 else 0 := by
  rw [List.countP_singleton]
  have fits : Leaf.fits kind p ⟨o, .reject, .missingRequired f.key, skips⟩ = true ↔
      OptionMap.AgreeOff ((f :: fs).map (·.key)) o p ∧ Unset p fs ∧ p.get? f.key = none
        ∧ kind = .missingRequired f.key := by
    rw [Leaf.fits_iff, unset.beq_iff, Unset, Unset, List.forall_mem_cons, eq_comm]
    tauto
  simp only [fits]

/-! ### The whole walk -/

theorem expand_cons_of_skip {r : Rule} (h : s.skipping? o f.key = some r) :
    expand s (f :: fs) o skips = expand s fs o (skips ++ [⟨f.key, r.name, r.reason⟩]) := by
  rw [expand, h]

theorem expand_cons_of_none (h : s.skipping? o f.key = none) :
    expand s (f :: fs) o skips
      = f.acceptable.flatMap (fun v => expand s fs (o.insert f.key v) skips)
        ++ f.errors.map (fun v => ⟨o.insert f.key v, .reject, .errorValue f.key, skips⟩)
        ++ if f.optional then expand s fs o skips
           else [⟨o, .reject, .missingRequired f.key, skips⟩] := by
  rw [expand, h]

/-- A leaf below a node stands below one of the next nodes, which has noted the field if a rule skips it,
or ends at the field. -/
theorem mem_expand_cons {l : Leaf} (h : l ∈ expand s (f :: fs) o skips) :
    (∃ o', (o' = o ∨ ∃ v, o' = o.insert f.key v) ∧
      l ∈ expand s fs o' (skips ++ (s.note? o f).toList)) ∨
    l.skips = skips ∧ l.kind.key? = some f.key ∧ l.expected = .reject := by
  cases hr : s.skipping? o f.key with
  | some r =>
    have note : s.note? o f = some ⟨f.key, r.name, r.reason⟩ := by
      rw [RuleSet.note?, ← s.skipping?_eq_firstSkip?, hr]; rfl
    rw [expand_cons_of_skip hr] at h
    exact Or.inl ⟨o, Or.inl rfl, by rw [note]; exact h⟩
  | none =>
    have note : s.note? o f = none := by
      rw [RuleSet.note?, ← s.skipping?_eq_firstSkip?, hr]; rfl
    rw [note, Option.toList_none, List.append_nil]
    rw [expand_cons_of_none hr, List.mem_append, List.mem_append] at h
    rcases h with (h | h) | h
    · obtain ⟨v, -, hv⟩ := List.mem_flatMap.1 h
      exact Or.inl ⟨_, Or.inr ⟨v, rfl⟩, hv⟩
    · obtain ⟨v, -, rfl⟩ := List.mem_map.1 h
      exact Or.inr ⟨rfl, rfl, rfl⟩
    · split at h
      · exact Or.inl ⟨o, Or.inl rfl, h⟩
      · rw [List.mem_singleton.1 h]
        exact Or.inr ⟨rfl, rfl, rfl⟩

theorem expected_of_mem_expand {l : Leaf} (h : l ∈ expand s fs o skips) :
    l.expected = l.kind.expectation := by
  induction fs generalizing o skips with
  | nil => rw [List.mem_singleton.1 h]; rfl
  | cons f fs ih =>
    rcases mem_expand_cons h with ⟨o', -, h⟩ | ⟨-, hk, he⟩
    · exact ih h
    · rw [he, CaseKind.expectation_of_key? hk]

/-- Below every node at these fields, the leaves of a kind with given options are as many as the options
say, if the choices made so far agree with them, and none otherwise. -/
def Counted (s : RuleSet) (kind : CaseKind) (p : OptionMap) (fs : List Field) : Prop :=
  ∀ (o : OptionMap) (skips : List Skip), Unset o fs →
    (expand s fs o skips).countP (Leaf.fits kind p)
      = if OptionMap.AgreeOff (fs.map (·.key)) o p then s.multiplicity kind p fs else 0

theorem counted_nil : Counted s kind p [] := by
  intro o skips _
  rw [expand, List.countP_singleton, RuleSet.multiplicity, List.map_nil]
  simp only [Leaf.fits_iff, OptionMap.agreeOff_nil_iff, @eq_comm _ CaseKind.valid]
  by_cases hk : kind = .valid <;> simp [hk]

theorem agreeOff_iff_of_unset (unset : Unset o (f :: fs)) (fresh : f.key ∉ fs.map (·.key)) :
    OptionMap.AgreeOff (fs.map (·.key)) o p ↔
      OptionMap.AgreeOff ((f :: fs).map (·.key)) o p ∧ p.get? f.key = none :=
  OptionMap.agreeOff_iff_of_get?_eq_none fresh (unset f List.mem_cons_self)

theorem Counted.acceptable (ih : Counted s kind p fs) (unset : Unset o (f :: fs))
    (fresh : f.key ∉ fs.map (·.key)) :
    (f.acceptable.flatMap fun v => expand s fs (o.insert f.key v) skips).countP (Leaf.fits kind p)
      = if OptionMap.AgreeOff ((f :: fs).map (·.key)) o p
        then occurrencesIn f.acceptable (p.get? f.key) * s.multiplicity kind p fs else 0 := by
  rw [List.countP_flatMap]
  simp only [Function.comp_def, ih _ _ (unset.of_cons.insert fresh _)]
  rw [sum_map_ite, countP_agreeOff_insert fresh, ite_mul, Nat.zero_mul, List.map_cons]

theorem Counted.left_out (ih : Counted s kind p fs) (unset : Unset o (f :: fs))
    (fresh : f.key ∉ fs.map (·.key)) :
    (if f.optional = true then expand s fs o skips
      else [⟨o, .reject, .missingRequired f.key, skips⟩]).countP (Leaf.fits kind p)
      = if OptionMap.AgreeOff ((f :: fs).map (·.key)) o p ∧ p.get? f.key = none then
          if f.optional = true then s.multiplicity kind p fs
          else if Unset p fs ∧ kind = .missingRequired f.key then 1 else 0
        else 0 := by
  by_cases hopt : f.optional = true
  · simp only [if_pos hopt]
    rw [ih _ _ unset.of_cons, if_congr (agreeOff_iff_of_unset unset fresh) rfl rfl]
  · simp only [if_neg hopt]
    rw [countP_missing unset, ← ite_and]
    exact if_congr (by tauto) rfl rfl

theorem Counted.skip (ih : Counted s kind p fs) (wf : WellOrdered s (f :: fs))
    (unset : Unset o (f :: fs)) {r : Rule} (hr : s.skipping? o f.key = some r) :
    (expand s (f :: fs) o skips).countP (Leaf.fits kind p)
      = if OptionMap.AgreeOff ((f :: fs).map (·.key)) o p then s.multiplicity kind p (f :: fs) else 0 := by
  rw [expand_cons_of_skip hr, ih _ _ unset.of_cons,
    if_congr (agreeOff_iff_of_unset unset wf.fresh) rfl rfl]
  by_cases agree : OptionMap.AgreeOff ((f :: fs).map (·.key)) o p
  · have skips : s.Skips p f.key :=
      RuleSet.skips_of_firstSkip?_eq_some (skipping?_eq_of_agreeOff wf agree ▸ hr)
    rw [RuleSet.multiplicity_cons_of_skips skips]
    simp only [agree, true_and, if_true]
  · simp only [agree, false_and, if_false]

theorem Counted.choose (ih : Counted s kind p fs) (wf : WellOrdered s (f :: fs))
    (unset : Unset o (f :: fs)) (hr : s.skipping? o f.key = none) :
    (expand s (f :: fs) o skips).countP (Leaf.fits kind p)
      = if OptionMap.AgreeOff ((f :: fs).map (·.key)) o p then s.multiplicity kind p (f :: fs) else 0 := by
  rw [expand_cons_of_none hr, List.countP_append, List.countP_append, ih.acceptable unset wf.fresh,
    countP_errors unset.of_cons wf.fresh, ih.left_out unset wf.fresh]
  by_cases agree : OptionMap.AgreeOff ((f :: fs).map (·.key)) o p
  · have not_skips : ¬ s.Skips p f.key :=
      RuleSet.firstSkip?_eq_none_iff.1 (skipping?_eq_of_agreeOff wf agree ▸ hr)
    rw [RuleSet.multiplicity_cons_of_not_skips not_skips]
    simp only [agree, true_and, if_true]
  · simp only [agree, false_and, if_false]

theorem WellOrdered.counted (wf : WellOrdered s fs) : Counted s kind p fs := by
  -- over the fields still to come: each step hands `Counted` on, whatever was chosen before
  induction wf with
  | nil => exact counted_nil
  | cons fresh separated back rest ih =>
    intro o skips unset
    have wf := WellOrdered.cons fresh separated back rest
    cases hr : s.skipping? o _ with
    | some r => exact ih.skip wf unset hr
    | none => exact ih.choose wf unset hr

/-- The options of a leaf agree with the choices above it, and some way leads to them. -/
theorem WellOrdered.mem_expand (wf : WellOrdered s fs) (unset : Unset o fs) {l : Leaf}
    (h : l ∈ expand s fs o skips) :
    OptionMap.AgreeOff (fs.map (·.key)) o l.config ∧ 0 < s.multiplicity l.kind l.config fs := by
  have pos : 0 < (expand s fs o skips).countP (Leaf.fits l.kind l.config) :=
    List.countP_pos_iff.2 ⟨l, h, Leaf.fits_iff.2 ⟨rfl, BEq.rfl⟩⟩
  rw [wf.counted o skips unset] at pos
  by_cases agree : OptionMap.AgreeOff (fs.map (·.key)) o l.config
  · rw [if_pos agree] at pos
    exact ⟨agree, pos⟩
  · rw [if_neg agree] at pos
    exact absurd pos (Nat.lt_irrefl 0)

end

/-! ### The cases of a table -/

namespace Table

/-- The options name no key that the table does not have. -/
def Knows (t : Table) (o : OptionMap) : Prop := ∀ key ∈ o.keys, key ∈ t.keys

instance (t : Table) (o : OptionMap) : Decidable (t.Knows o) :=
  inferInstanceAs (Decidable (∀ key ∈ o.keys, _))

theorem knows_iff_agreeOff {t : Table} {o : OptionMap} :
    t.Knows o ↔ OptionMap.AgreeOff t.keys .empty o := by
  have empty : ∀ key, OptionMap.empty.value? key = none := fun key =>
    OptionMap.value?_eq_none_iff.2 (OptionMap.get?_empty key)
  constructor
  · intro h key hkey
    have absent : o.get? key = none := by
      by_contra hget
      exact hkey (h key (OptionMap.mem_keys_iff.2 hget))
    rw [empty, OptionMap.value?_eq_none_iff.2 absent]
  · intro h key hmem
    by_contra hkey
    have absent := h key hkey
    rw [empty] at absent
    exact OptionMap.mem_keys_iff.1 hmem (OptionMap.value?_eq_none_iff.1 absent.symm)

theorem map_toLeaf_cases (t : Table) : t.cases.map (·.toLeaf) = t.leaves := by
  rw [cases, List.mapIdx_eq_zipIdx_map, List.map_map]
  exact List.zipIdx_map_fst 0 t.leaves

theorem unset_empty (fs : List Field) : Unset .empty fs := fun g _ => OptionMap.get?_empty g.key

/-- The cases of a kind with given options are as many as the options say. -/
theorem countP_cases (t : Table) (kind : CaseKind) (o : OptionMap) :
    t.cases.countP (fun c => c.toLeaf.fits kind o)
      = if t.Knows o then t.rules.multiplicity kind o t.fields else 0 := by
  have leaves : t.cases.countP (fun c => c.toLeaf.fits kind o) = t.leaves.countP (Leaf.fits kind o) := by
    rw [← t.map_toLeaf_cases, List.countP_map]; rfl
  rw [leaves, Table.leaves, t.wellOrdered.counted _ _ (unset_empty t.fields)]
  classical exact if_congr knows_iff_agreeOff.symm rfl rfl

variable {t : Table} {c : Case} {kind : CaseKind} {o : OptionMap}

theorem exists_case_iff_countP_pos : (∃ c ∈ t.cases, c.kind = kind ∧ (c.config == o) = true) ↔
    0 < t.cases.countP (fun c => c.toLeaf.fits kind o) := by
  simp only [List.countP_pos_iff, Leaf.fits_iff]

/-- Options have a case of a kind iff the table knows their keys and some way leads to them. -/
theorem exists_case_iff : (∃ c ∈ t.cases, c.kind = kind ∧ (c.config == o) = true) ↔
    t.Knows o ∧ 0 < t.rules.multiplicity kind o t.fields := by
  rw [exists_case_iff_countP_pos, countP_cases]
  by_cases known : t.Knows o <;> simp [known]

theorem toLeaf_mem_expand (h : c ∈ t.cases) : c.toLeaf ∈ expand t.rules t.fields .empty [] := by
  have leaf : c.toLeaf ∈ t.cases.map (·.toLeaf) := List.mem_map_of_mem h
  rwa [t.map_toLeaf_cases] at leaf

theorem expected_of_mem_cases (h : c ∈ t.cases) : c.expected = c.kind.expectation :=
  expected_of_mem_expand (toLeaf_mem_expand h)

/-- Some way leads to the options of a case. -/
theorem multiplicity_pos_of_mem_cases (h : c ∈ t.cases) :
    0 < t.rules.multiplicity c.kind c.config t.fields :=
  (exists_case_iff.1 ⟨c, h, rfl, BEq.rfl⟩).2

/-- A rejected case ends at a field of the table. -/
theorem exists_ending_of_rejected (hc : c ∈ t.cases) (h : c.expected = .reject) :
    ∃ f ∈ t.fields, 0 < t.rules.endings c.kind c.config f := by
  rcases RuleSet.multiplicity_pos (multiplicity_pos_of_mem_cases hc) with
    ⟨hk, -⟩ | ⟨before, f, after, split, -, -, ending⟩
  · rw [expected_of_mem_cases hc, hk, CaseKind.expectation] at h
    exact absurd h (by simp)
  · exact ⟨f, by rw [split]; simp, ending⟩

/-! ### Cases of the cascade -/

/-- Basic mode in the cascade: both other fields are skipped. -/
def cascadeBasic : Case where
  config := .ofList [(Key.mode, .string "basic")]
  expected := .accept
  kind := .valid
  skips :=
    [⟨Key.alternatePort, "port-needs-full", "no alternate port"⟩,
      ⟨Key.alternateInterface, "interface-needs-port", "nothing to bind"⟩]
  ordinal := 0

/-- Full mode in the cascade without the port that it requires. -/
def cascadeLacking : Case where
  config := .ofList [(Key.mode, .string "full")]
  expected := .reject
  kind := .missingRequired Key.alternatePort
  skips := []
  ordinal := 8

/-- The cascade's port is listed twice, and so is the case in which only the interface is wrong. -/
def cascadeTwin (ordinal : Nat) : Case where
  config := .ofList [(Key.mode, .string "full"), (Key.alternatePort, .number (.integer 3479)),
    (Key.alternateInterface, .string "bogus0")]
  expected := .reject
  kind := .errorValue Key.alternateInterface
  skips := []
  ordinal := ordinal

end Table
end ServerTrials.Trial
