import Mathlib.Algebra.BigOperators.Group.List.Lemmas
import Mathlib.Algebra.BigOperators.Ring.List
import ServerTrials.Proofs.Trial.Leaves

/-!
Which options the accepted cases of a table have, and how often.

The options are acceptable to a table if it knows all their keys and every field is settled. Each case
with these options chooses, for every key that they hold, one place at which the field lists the value; so
the cases are counted by a product over the keys.
-/

namespace ServerTrials.Trial
namespace Table

/-- The options name only fields of the table, and every field is settled. -/
def Accepts (t : Table) (o : OptionMap) : Prop := t.Knows o ∧ ∀ f ∈ t.fields, t.rules.Settled o f

instance (t : Table) (o : OptionMap) : Decidable (t.Accepts o) := inferInstanceAs (Decidable (_ ∧ _))

/-- The acceptable values of the field with that key. -/
def acceptable (t : Table) (key : String) : List Json :=
  match t.fields.find? fun f => f.key == key with
  | none => []
  | some f => f.acceptable

/-! ### A product over keys is one over fields -/

theorem acceptable_key {t : Table} {f : Field} (hf : f ∈ t.fields) :
    t.acceptable f.key = f.acceptable := by
  rw [acceptable]
  cases hfind : t.fields.find? fun g => g.key == f.key with
  | none => simpa using List.find?_eq_none.1 hfind f hf
  | some g =>
    have hg : g ∈ t.fields := List.mem_of_find?_eq_some hfind
    have hkey : g.key = f.key := by simpa using List.find?_some hfind
    rw [List.inj_on_of_nodup_map t.keys_nodup hg hf hkey]

/-- The fields that the options hold, with their values. -/
def entriesOf (fs : List Field) (o : OptionMap) : List (String × Json) :=
  fs.filterMap fun f => (o.get? f.key).map fun v => (f.key, v)

theorem map_fst_entriesOf (fs : List Field) (o : OptionMap) :
    (entriesOf fs o).map (·.1) = (fs.map (·.key)).filter fun key => (o.get? key).isSome := by
  induction fs with
  | nil => rfl
  | cons f fs ih =>
    rw [entriesOf, List.filterMap_cons, List.map_cons, List.filter_cons, ← ih]
    cases o.get? f.key <;> rfl

/-- Known options hold what the fields hold, in some order. -/
theorem Knows.perm_entriesOf {t : Table} {o : OptionMap} (h : t.Knows o) :
    o.entries.Perm (entriesOf t.fields o) := by
  have nodup : ((entriesOf t.fields o).map (·.1)).Nodup := by
    rw [map_fst_entriesOf]; exact t.keys_nodup.filter _
  refine (List.perm_ext_iff_of_nodup o.rising.nodup.of_map nodup.of_map).2 fun (key, v) => ?_
  rw [OptionMap.mem_entries_iff, entriesOf, List.mem_filterMap]
  constructor
  · intro hget
    have hkey : key ∈ t.keys := h key (OptionMap.mem_keys_iff.2 (by rw [hget]; simp))
    obtain ⟨f, hf, rfl⟩ := List.mem_map.1 hkey
    exact ⟨f, hf, by rw [hget]; rfl⟩
  · rintro ⟨f, -, hv⟩
    obtain ⟨w, hget, hw⟩ := Option.map_eq_some_iff.1 hv
    obtain ⟨rfl, rfl⟩ := Prod.mk.inj hw
    exact hget

theorem prod_entriesOf {t : Table} {o : OptionMap} : ∀ {fs : List Field}, (∀ f ∈ fs, f ∈ t.fields) →
    ((entriesOf fs o).map fun e => (t.acceptable e.1).count e.2).prod
      = (fs.map (·.occurrences o)).prod
  | [], _ => rfl
  | f :: fs, h => by
    obtain ⟨hf, hfs⟩ := List.forall_mem_cons.1 h
    have ih := prod_entriesOf (o := o) hfs
    rw [entriesOf] at ih
    rw [entriesOf, List.filterMap_cons, List.map_cons, List.prod_cons, ← ih, Field.occurrences]
    cases o.get? f.key with
    | none => simp
    | some v => simp [acceptable_key hf]

theorem Knows.prod_entries {t : Table} {o : OptionMap} (h : t.Knows o) :
    (o.entries.map fun e => (t.acceptable e.1).count e.2).prod
      = (t.fields.map (·.occurrences o)).prod := by
  rw [(h.perm_entriesOf.map _).prod_eq, prod_entriesOf fun f hf => hf]

/-! ### Accepted cases -/

theorem kind_of_expected_eq_accept {t : Table} {c : Case} (hc : c ∈ t.cases)
    (h : c.expected = .accept) : c.kind = .valid := by
  rw [expected_of_mem_cases hc] at h
  cases hk : c.kind <;> simp [hk, CaseKind.expectation] at h ⊢

/-- On the way to an accepted case every field is settled. -/
theorem settled_of_accepted {t : Table} {c : Case} (hc : c ∈ t.cases) (h : c.expected = .accept) :
    ∀ f ∈ t.fields, t.rules.Settled c.config f := by
  have pos := multiplicity_pos_of_mem_cases hc
  rw [kind_of_expected_eq_accept hc h, RuleSet.multiplicity_valid, RuleSet.prod_ways_eq] at pos
  by_contra unsettled
  rw [if_neg unsettled] at pos
  exact absurd pos (Nat.lt_irrefl 0)

theorem countP_accepted (t : Table) (o : OptionMap) :
    t.cases.countP (fun c => c.expected = .accept && c.config == o)
      = if t.Accepts o then (o.entries.map fun e => (t.acceptable e.1).count e.2).prod else 0 := by
  have kinds : ∀ c ∈ t.cases, (c.expected = .accept && c.config == o) = true ↔
      c.toLeaf.fits .valid o = true := fun c hc => by
    rw [Leaf.fits_iff, Bool.and_eq_true, decide_eq_true_iff]
    refine and_congr_left fun _ => ⟨kind_of_expected_eq_accept hc, fun hk => ?_⟩
    rw [expected_of_mem_cases hc, hk]; rfl
  rw [List.countP_congr kinds, countP_cases, RuleSet.multiplicity_valid, RuleSet.prod_ways_eq]
  by_cases hk : t.Knows o
  · rw [if_pos hk, hk.prod_entries]
    exact if_congr (by simp [Accepts, hk]) rfl rfl
  · simp [Accepts, hk]

theorem count_le_one_of_pairwise {v : Json} : ∀ {values : List Json},
    values.Pairwise (fun v w => (v == w) = false) → values.count v ≤ 1
  | [], _ => by simp
  | w :: values, h => by
    obtain ⟨first, rest⟩ := List.pairwise_cons.1 h
    rw [List.count_cons]
    by_cases hw : (w == v) = true
    · have absent : values.count v = 0 := by
        rw [List.count, List.countP_eq_zero]
        intro x hx hxv
        exact absurd (BEq.trans hw (BEq.symm hxv)) (by rw [first x hx]; simp)
      rw [absent, if_pos hw]
    · rw [if_neg hw]
      exact count_le_one_of_pairwise rest

/-- What an acceptable map holds, the field of that key lists. -/
theorem Accepts.count_pos {t : Table} {o : OptionMap} (h : t.Accepts o) :
    ∀ e ∈ o.entries, 0 < (t.acceptable e.1).count e.2 := fun (key, v) he => by
  have hget := OptionMap.mem_entries_iff.1 he
  have hkey : key ∈ t.keys := h.1 key (OptionMap.mem_keys_iff.2 (by rw [hget]; simp))
  obtain ⟨f, hf, rfl⟩ := List.mem_map.1 hkey
  have settled := h.2 f hf
  have kept : ¬ t.rules.Skips o f.key := fun skips => by
    rw [RuleSet.settled_of_skips skips, hget] at settled
    exact absurd settled (by simp)
  rw [RuleSet.settled_of_not_skips kept, hget] at settled
  obtain ⟨w, hw, hmem⟩ | ⟨hnone, -⟩ := settled
  · rw [acceptable_key hf, Option.some.inj hw]
    exact count_pos_of_contains hmem
  · exact absurd hnone (by simp)

/-- Options that the table accepts are those of some case. -/
theorem Accepts.exists_case {t : Table} {o : OptionMap} (h : t.Accepts o) :
    ∃ c ∈ t.cases, c.expected = .accept ∧ (c.config == o) = true := by
  have counted : 0 < t.cases.countP (fun c => c.expected = .accept && c.config == o) := by
    rw [t.countP_accepted o, if_pos h]
    refine Nat.pos_of_ne_zero fun zero => ?_
    obtain ⟨e, he, absent⟩ := List.mem_map.1 (List.prod_eq_zero_iff.1 zero)
    exact absurd (h.count_pos e he) (Nat.not_lt_of_le (Nat.le_of_eq absent))
  simpa using List.countP_pos_iff.1 counted

/-- Lists without repeated values leave one way to choose. -/
theorem Accepts.prod_eq_one {t : Table} {o : OptionMap} (h : t.Accepts o)
    (distinct : ∀ e ∈ o.entries, (t.acceptable e.1).Pairwise fun v w => (v == w) = false) :
    (o.entries.map fun e => (t.acceptable e.1).count e.2).prod = 1 := by
  refine List.prod_eq_one fun n hn => ?_
  obtain ⟨e, he, rfl⟩ := List.mem_map.1 hn
  exact Nat.le_antisymm (count_le_one_of_pairwise (distinct e he)) (h.count_pos e he)

/-- The accepted cases with given options: none unless the table accepts the options, and otherwise one
for each choice of a place at which the values of the options are listed; so exactly one where no list
repeats a value. All of them are valid cases. -/
theorem accepted_cases_counted (t : Table) (o : OptionMap) :
    (t.cases.countP (fun c => c.expected = .accept && c.config == o)
      = if t.Accepts o then (o.entries.map fun e => (t.acceptable e.1).count e.2).prod else 0) ∧
    (t.Accepts o →
      (∀ e ∈ o.entries, (t.acceptable e.1).Pairwise fun v w => (v == w) = false) →
      t.cases.countP (fun c => c.expected = .accept && c.config == o) = 1) ∧
    ∀ c ∈ t.cases, c.expected = .accept → c.kind = .valid := by
  refine ⟨t.countP_accepted o, fun accepts distinct => ?_, fun c hc => kind_of_expected_eq_accept hc⟩
  rw [t.countP_accepted o, if_pos accepts, accepts.prod_eq_one distinct]

/-- In the cascade, full mode with the port that is listed twice is accepted twice, and basic mode on its
own once. -/
theorem accepted_cases_of_cascade :
    cascade.cases.countP (fun c => c.expected = .accept && c.config == OptionMap.ofList
        [(Key.mode, .string "full"), (Key.alternatePort, .number (.integer 3479))]) = 2 ∧
    cascade.cases.countP (fun c => c.expected = .accept && c.config == cascadeBasic.config) = 1 ∧
    cascadeBasic ∈ cascade.cases ∧ cascadeBasic.kind = .valid := by
  have basic : cascadeBasic ∈ cascade.cases := by decide
  refine ⟨?_, ?_, basic, (accepted_cases_counted cascade .empty).2.2 cascadeBasic basic rfl⟩
  · rw [(accepted_cases_counted cascade _).1]
    decide
  · exact (accepted_cases_counted cascade _).2.1 (by decide) (by decide)

end Table
end ServerTrials.Trial
