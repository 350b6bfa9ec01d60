import Mathlib.Algebra.BigOperators.Ring.List
import ServerTrials.Proofs.Trial.Leaves

/-!
Which options the rejected cases of a table have, and how often.

A case is rejected at one field: the fields before it are settled, the ones after it are not reached and
left out, no rule skips it, and it has an error value or is required and missing. Such options are reached
once for each choice of places at which the earlier fields and the error list hold their values. An error
value of any field is never accepted.
-/

namespace ServerTrials.Trial
namespace Table

/-- The options are decided up to this field, and not beyond it. -/
structure StopsAt (t : Table) (before : List Field) (f : Field) (after : List Field) (o : OptionMap) :
    Prop where
  known : t.Knows o
  unreached : Unset o after
  kept : ¬ t.rules.Skips o f.key
  settled : ∀ g ∈ before, t.rules.Settled o g

variable {t : Table} {before after : List Field} {f : Field} {o : OptionMap}

instance : Decidable (t.StopsAt before f after o) :=
  decidable_of_iff (t.Knows o ∧ Unset o after ∧ ¬ t.rules.Skips o f.key ∧
      ∀ g ∈ before, t.rules.Settled o g)
    ⟨fun h => ⟨h.1, h.2.1, h.2.2.1, h.2.2.2⟩, fun h => ⟨h.known, h.unreached, h.kept, h.settled⟩⟩

/-! ### Cases that end at a field -/

/-- The cases that end at a field with given options: the ways of the fields before it, times the endings
at the field. -/
theorem countP_ending (split : t.fields = before ++ f :: after) {kind : CaseKind}
    (hk : kind.key? = some f.key) :
    t.cases.countP (fun c => c.toLeaf.fits kind o)
      = if t.StopsAt before f after o
        then (before.map (·.occurrences o)).prod * t.rules.endings kind o f else 0 := by
  have nodup := t.keys_nodup
  rw [keys, split] at nodup
  rw [countP_cases, split, RuleSet.multiplicity_ending nodup hk, RuleSet.prod_ways_eq]
  by_cases hstop : t.StopsAt before f after o
  · rw [if_pos hstop, if_pos hstop.known, if_pos hstop.settled, if_pos hstop.unreached]
  · rw [if_neg hstop]
    -- a skipped field has no endings; otherwise one of the other three conditions fails
    by_cases hs : t.rules.Skips o f.key
    · rw [RuleSet.endings, if_pos hs]; simp
    · by_cases hknown : t.Knows o <;> by_cases hsettled : ∀ g ∈ before, t.rules.Settled o g <;>
        by_cases hafter : Unset o after <;> simp only [hknown, hsettled, hafter] <;> simp
      exact absurd ⟨hknown, hafter, hs, hsettled⟩ hstop

theorem prod_occurrences_pos (settled : ∀ g ∈ before, t.rules.Settled o g) :
    0 < (before.map (·.occurrences o)).prod := by
  refine Nat.pos_of_ne_zero fun zero => ?_
  obtain ⟨g, hg, hzero⟩ := List.mem_map.1 (List.prod_eq_zero_iff.1 zero)
  have pos := RuleSet.ways_pos_iff.2 (settled g hg)
  rw [RuleSet.ways, if_pos (settled g hg), hzero] at pos
  exact absurd pos (Nat.lt_irrefl 0)

/-- Options have a case that ends at the field iff they stop there and the field ends it. -/
theorem exists_ending_iff (split : t.fields = before ++ f :: after) {kind : CaseKind}
    (hk : kind.key? = some f.key) :
    (∃ c ∈ t.cases, c.kind = kind ∧ (c.config == o) = true) ↔
      t.StopsAt before f after o ∧ 0 < t.rules.endings kind o f := by
  rw [exists_case_iff_countP_pos, countP_ending split hk]
  by_cases hstop : t.StopsAt before f after o
  · rw [if_pos hstop, Nat.mul_pos_iff_of_pos_left (prod_occurrences_pos hstop.settled)]
    simp [hstop]
  · simp [hstop]

theorem endings_errorValue (kept : ¬ t.rules.Skips o f.key) :
    t.rules.endings (.errorValue f.key) o f = occurrencesIn f.errors (o.get? f.key) := by
  rw [RuleSet.endings, if_neg kept, if_pos rfl]

theorem endings_missingRequired (kept : ¬ t.rules.Skips o f.key) :
    t.rules.endings (.missingRequired f.key) o f = if f.LacksRequired o then 1 else 0 := by
  rw [RuleSet.endings, if_neg kept, if_neg (by simp)]
  simp

/-! ### Error values -/

/-- Past all fields or up to the last one reached, only the field at which a case ends has an error
value. -/
theorem holdsError_of_mem_cases {c : Case} (hc : c ∈ t.cases) {g : Field} (hg : g ∈ t.fields)
    (herr : g.HoldsError c.config) : c.kind = .errorValue g.key := by
  rcases RuleSet.multiplicity_pos (multiplicity_pos_of_mem_cases hc) with
    ⟨-, settled⟩ | ⟨before, f, after, split, settled, unset, ending⟩
  · exact absurd herr ((settled g hg).not_holdsError (t.separated g hg))
  · rw [split, List.mem_append, List.mem_cons] at hg
    rcases hg with hg | rfl | hg
    · exact absurd herr ((settled g hg).not_holdsError (t.separated g (by rw [split]; simp [hg])))
    · obtain ⟨-, ⟨hk, -⟩ | ⟨-, -, hnone⟩⟩ := RuleSet.endings_pos_iff.1 ending
      · exact hk
      · obtain ⟨v, hv, -⟩ := herr
        rw [hnone] at hv
        exact absurd hv (by simp)
    · obtain ⟨v, hv, -⟩ := herr
      rw [unset g hg] at hv
      exact absurd hv (by simp)

theorem eq_of_key_eq {g : Field} (hf : f ∈ t.fields) (hg : g ∈ t.fields) (h : g.key = f.key) : g = f :=
  List.inj_on_of_nodup_map t.keys_nodup hg hf h

/-! ### Rejected cases -/

theorem exists_field_of_rejected {c : Case} (hc : c ∈ t.cases) (h : c.expected = .reject) :
    ∃ g ∈ t.fields, c.kind = .errorValue g.key ∨ c.kind = .missingRequired g.key := by
  obtain ⟨g, hg, ending⟩ := exists_ending_of_rejected hc h
  obtain ⟨-, ⟨hk, -⟩ | ⟨hk, -⟩⟩ := RuleSet.endings_pos_iff.1 ending
  · exact ⟨g, hg, Or.inl hk⟩
  · exact ⟨g, hg, Or.inr hk⟩

theorem expected_of_key? {c : Case} (hc : c ∈ t.cases) {key : String} (h : c.kind.key? = some key) :
    c.expected = .reject := by
  rw [expected_of_mem_cases hc, CaseKind.expectation_of_key? h]

theorem exists_rejected_iff (split : t.fields = before ++ f :: after) {kind : CaseKind}
    (hk : kind.key? = some f.key) :
    (∃ c ∈ t.cases, c.expected = .reject ∧ c.kind = kind ∧ (c.config == o) = true) ↔
      t.StopsAt before f after o ∧ 0 < t.rules.endings kind o f := by
  rw [← exists_ending_iff split hk]
  refine exists_congr fun c => and_congr_right fun hc => and_iff_right_of_imp fun h => ?_
  exact expected_of_key? hc (h.1 ▸ hk)

theorem countP_rejected (split : t.fields = before ++ f :: after) {kind : CaseKind}
    (hk : kind.key? = some f.key) :
    t.cases.countP (fun c => c.expected = .reject && c.kind = kind && c.config == o)
      = if t.StopsAt before f after o
        then (before.map (·.occurrences o)).prod * t.rules.endings kind o f else 0 := by
  rw [← countP_ending split hk]
  refine List.countP_congr fun c hc => ?_
  rw [Leaf.fits_iff, Bool.and_eq_true, Bool.and_eq_true, decide_eq_true_iff, decide_eq_true_iff]
  refine and_congr_left fun _ => and_iff_right_of_imp fun h => ?_
  exact expected_of_key? hc (h ▸ hk)

/-- A case that ends with an error value holds the error value of that field and of no other. -/
theorem holdsError_only_of_errorValue {c : Case} (hc : c ∈ t.cases) (hf : f ∈ t.fields)
    (hk : c.kind = .errorValue f.key) :
    f.HoldsError c.config ∧ ∀ g ∈ t.fields, g.HoldsError c.config → g = f := by
  obtain ⟨before, after, split⟩ := List.append_of_mem hf
  have own : ∃ d ∈ t.cases, d.kind = .errorValue f.key ∧ (d.config == c.config) = true :=
    ⟨c, hc, hk, BEq.rfl⟩
  obtain ⟨stop, ending⟩ := (exists_ending_iff split rfl).1 own
  rw [endings_errorValue stop.kept, occurrencesIn_pos_iff] at ending
  refine ⟨ending, fun g hg herr => eq_of_key_eq hf hg ?_⟩
  exact (CaseKind.errorValue.inj (hk.symm.trans (holdsError_of_mem_cases hc hg herr))).symm

/-- The rejected cases that end at a field. They have the options that stop at it with an error value, or
with nothing where something is required; each such map comes as often as its values are listed by the
earlier fields, times the error list of the field. Every rejected case is one of these for some field, a
case that ends with an error value holds no other, and no case with an error value is accepted. -/
theorem rejected_cases_counted (t : Table) (before : List Field) (f : Field) (after : List Field)
    (split : t.fields = before ++ f :: after) (o : OptionMap) :
    ((∃ c ∈ t.cases, c.expected = .reject ∧ c.kind = .errorValue f.key ∧ (c.config == o) = true) ↔
      t.StopsAt before f after o ∧ f.HoldsError o) ∧
    ((∃ c ∈ t.cases, c.expected = .reject ∧ c.kind = .missingRequired f.key ∧ (c.config == o) = true) ↔
      t.StopsAt before f after o ∧ f.LacksRequired o) ∧
    t.cases.countP (fun c => c.expected = .reject && c.kind = .errorValue f.key && c.config == o)
      = (if t.StopsAt before f after o
          then (before.map (·.occurrences o)).prod * occurrencesIn f.errors (o.get? f.key) else 0) ∧
    t.cases.countP (fun c => c.expected = .reject && c.kind = .missingRequired f.key && c.config == o)
      = (if t.StopsAt before f after o ∧ f.LacksRequired o
          then (before.map (·.occurrences o)).prod else 0) ∧
    (∀ c ∈ t.cases, c.expected = .reject →
      ∃ g ∈ t.fields, c.kind = .errorValue g.key ∨ c.kind = .missingRequired g.key) ∧
    (∀ c ∈ t.cases, c.kind = .errorValue f.key →
      f.HoldsError c.config ∧ ∀ g ∈ t.fields, g.HoldsError c.config → g = f) ∧
    ∀ c ∈ t.cases, f.HoldsError c.config → c.expected = .reject := by
  have hf : f ∈ t.fields := by rw [split]; simp
  have error : (CaseKind.errorValue f.key).key? = some f.key := rfl
  have missing : (CaseKind.missingRequired f.key).key? = some f.key := rfl
  refine ⟨?_, ?_, ?_, ?_, fun c hc => exists_field_of_rejected hc,
    fun c hc hk => holdsError_only_of_errorValue hc hf hk, fun c hc herr => ?_⟩
  · rw [exists_rejected_iff split error]
    refine and_congr_right fun stop => ?_
    rw [endings_errorValue stop.kept, occurrencesIn_pos_iff, Field.HoldsError]
  · rw [exists_rejected_iff split missing]
    refine and_congr_right fun stop => ?_
    rw [endings_missingRequired stop.kept]
    by_cases hlack : f.LacksRequired o <;> simp [hlack]
  · rw [countP_rejected split error]
    by_cases stop : t.StopsAt before f after o
    · rw [if_pos stop, if_pos stop, endings_errorValue stop.kept]
    · rw [if_neg stop, if_neg stop]
  · rw [countP_rejected split missing]
    by_cases stop : t.StopsAt before f after o
    · rw [if_pos stop, endings_missingRequired stop.kept]
      by_cases hlack : f.LacksRequired o <;> simp [stop, hlack]
    · simp [stop]
  · exact expected_of_key? hc (holdsError_of_mem_cases hc hf herr ▸ error)

/-- In the cascade, the wrong interface is refused once for each place at which its port is listed, and
the missing port once. -/
theorem rejected_cases_of_cascade :
    cascade.cases.countP (fun c => c.expected = .reject && c.kind = .errorValue Key.alternateInterface
        && c.config == (cascadeTwin 2).config) = 2 ∧
    cascade.cases.countP (fun c => c.expected = .reject && c.kind = .missingRequired Key.alternatePort
        && c.config == cascadeLacking.config) = 1 ∧
    (cascadeTwin 2 ∈ cascade.cases ∧ ∃ g ∈ cascade.fields,
      (cascadeTwin 2).kind = .errorValue g.key ∨ (cascadeTwin 2).kind = .missingRequired g.key) := by
  have interface : cascade.fields = cascade.fields.take 2 ++ cascade.fields[2] :: [] := rfl
  have port : cascade.fields = cascade.fields.take 1 ++ cascade.fields[1] :: cascade.fields.drop 2 := rfl
  have twin : cascadeTwin 2 ∈ cascade.cases := by decide
  obtain ⟨-, -, errors, -, ends, -⟩ :=
    rejected_cases_counted cascade _ _ _ interface (cascadeTwin 2).config
  obtain ⟨-, -, -, missing, -⟩ := rejected_cases_counted cascade _ _ _ port cascadeLacking.config
  exact ⟨errors.trans (by decide), missing.trans (by decide), twin, ends (cascadeTwin 2) twin rfl⟩

end Table
end ServerTrials.Trial
