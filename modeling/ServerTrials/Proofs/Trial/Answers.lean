import ServerTrials.Proofs.Trial.Leaves

/-!
What a case says follows from its options.

On the way to a case the rules are asked about options that are not complete yet. Still the case notes just
what they say about its final options: which of the fields that it reached are skipped, and by which rule.
The kind of a case follows from its options as well, so cases with the same options say the same.
-/

namespace ServerTrials.Trial

/-- The fields before the one at which a case of this kind ends; all of them if it goes past the last. -/
def reached (kind : CaseKind) (fs : List Field) : List Field :=
  fs.takeWhile fun f => kind.key? ≠ some f.key

variable {s : RuleSet} {fs : List Field} {f : Field} {o : OptionMap} {skips : List Skip}
  {kind : CaseKind} {l : Leaf}

theorem reached_cons (kind : CaseKind) (f : Field) (fs : List Field) :
    reached kind (f :: fs) = if kind.key? = some f.key then [] else f :: reached kind fs := by
  rw [reached, List.takeWhile_cons, reached]
  by_cases h : kind.key? = some f.key <;> simp [h]

/-- A leaf further down reaches the field above it. -/
theorem reached_cons_of_mem_expand (wf : WellOrdered s (f :: fs)) (unset : Unset o fs)
    (h : l ∈ expand s fs o skips) : reached l.kind (f :: fs) = f :: reached l.kind fs := by
  cases wf with
  | cons fresh separated back rest =>
    have pos := (rest.mem_expand unset h).2
    rw [reached_cons, if_neg]
    intro hk
    rw [RuleSet.multiplicity_eq_zero hk fresh] at pos
    exact absurd pos (Nat.lt_irrefl 0)

theorem reached_cons_of_key? (h : kind.key? = some f.key) : reached kind (f :: fs) = [] := by
  rw [reached_cons, if_pos h]

/-- A leaf notes what the rules say about its own options, for the fields that it reached. -/
theorem skips_of_mem_expand (wf : WellOrdered s fs) (unset : Unset o fs)
    (h : l ∈ expand s fs o skips) :
    l.skips = skips ++ (reached l.kind fs).filterMap (s.note? l.config) := by
  induction wf generalizing o skips with
  | nil => rw [List.mem_singleton.1 h]; simp [reached]
  | @cons f fs fresh separated back rest ih =>
    have wf := WellOrdered.cons fresh separated back rest
    -- the walk asked on `o`, which agrees with the leaf wherever the rules for `f` look
    have note : s.note? o f = s.note? l.config f := by
      have asked := skipping?_eq_of_agreeOff wf (wf.mem_expand unset h).1
      rw [RuleSet.note?, RuleSet.note?, ← s.skipping?_eq_firstSkip?, asked]
    rcases mem_expand_cons h with ⟨o', next, h⟩ | ⟨hskips, hk, -⟩
    · have unset' : Unset o' fs := by
        rcases next with rfl | ⟨v, rfl⟩
        · exact unset.of_cons
        · exact unset.of_cons.insert fresh v
      rw [ih unset' h, reached_cons_of_mem_expand wf unset' h, note, List.append_assoc]
      cases hn : s.note? l.config f <;> simp [hn]
    · rw [hskips, reached_cons_of_key? hk, List.filterMap_nil, List.append_nil]

/-! ### Cases -/

namespace Table

variable {t : Table} {c : Case}

theorem skips_of_mem_cases (h : c ∈ t.cases) :
    c.skips = (reached c.kind t.fields).filterMap (t.rules.note? c.config) :=
  skips_of_mem_expand t.wellOrdered (unset_empty t.fields) (toLeaf_mem_expand h)

/-- A case settles the fields that it reaches. -/
theorem settled_of_mem_reached (h : c ∈ t.cases) (hf : f ∈ reached c.kind t.fields) :
    t.rules.Settled c.config f := by
  rcases RuleSet.multiplicity_pos (multiplicity_pos_of_mem_cases h) with
    ⟨-, settled⟩ | ⟨before, g, after, split, settled, -, ending⟩
  · exact settled f (List.takeWhile_subset _ hf)
  · refine settled f ?_
    have stop : reached c.kind (g :: after) = [] :=
      reached_cons_of_key? (RuleSet.key?_of_endings_pos ending)
    rw [reached] at stop
    rw [split, reached, List.takeWhile_append, stop] at hf
    split at hf
    · simpa using hf
    · exact List.takeWhile_subset _ hf

theorem map_key_filterMap_note? (s : RuleSet) (o : OptionMap) : ∀ fs : List Field,
    (fs.filterMap (s.note? o)).map (·.key) = (fs.filter fun f => s.Skips o f.key).map (·.key)
  | [] => rfl
  | f :: fs => by
    have ih := map_key_filterMap_note? s o fs
    rw [List.filterMap_cons, List.filter_cons, RuleSet.note?]
    cases hr : s.firstSkip? o f.key with
    | none =>
      have kept : ¬ s.Skips o f.key := RuleSet.firstSkip?_eq_none_iff.1 hr
      simpa [kept] using ih
    | some r =>
      have skipped : s.Skips o f.key := RuleSet.skips_of_firstSkip?_eq_some hr
      simpa [skipped] using ih

/-- A note stands for a field that the case reached, with the first rule that skips it. -/
theorem exists_field_of_mem_skips (h : c ∈ t.cases) {n : Skip} (hn : n ∈ c.skips) :
    ∃ f ∈ reached c.kind t.fields, ∃ r, t.rules.firstSkip? c.config f.key = some r ∧
      n = ⟨f.key, r.name, r.reason⟩ := by
  rw [skips_of_mem_cases h] at hn
  obtain ⟨f, hf, hnote⟩ := List.mem_filterMap.1 hn
  obtain ⟨r, hr, rfl⟩ := Option.map_eq_some_iff.1 hnote
  exact ⟨f, hf, r, hr, rfl⟩

theorem contains_of_mem_skips (h : c ∈ t.cases) {n : Skip} (hn : n ∈ c.skips) :
    c.config.contains n.key = false := by
  obtain ⟨f, hf, r, hr, rfl⟩ := exists_field_of_mem_skips h hn
  have skipped : t.rules.Skips c.config f.key := RuleSet.skips_of_firstSkip?_eq_some hr
  have settled := settled_of_mem_reached h hf
  rw [RuleSet.settled_of_skips skipped] at settled
  exact OptionMap.contains_eq_false_iff.2 settled

/-- The field at which a rejected case ends is not skipped. -/
theorem exists_kept_of_rejected (h : c ∈ t.cases) (he : c.expected = .reject) :
    ∃ f ∈ t.fields, c.kind.key? = some f.key ∧ ¬ t.rules.Skips c.config f.key := by
  obtain ⟨f, hf, ending⟩ := exists_ending_of_rejected h he
  exact ⟨f, hf, RuleSet.key?_of_endings_pos ending, (RuleSet.endings_pos_iff.1 ending).1⟩

/-- The notes of a case are what the rules say about its final options. They name, in the order of the
fields and each once, the reached fields that some rule skips; each with the first such rule and its
reason. What is noted is left out, and the field at which a case is rejected is one that no rule skips. -/
theorem skips_of_final_options (t : Table) : ∀ c ∈ t.cases,
    c.skips.map (·.key)
      = ((reached c.kind t.fields).filter fun f => t.rules.Skips c.config f.key).map (·.key) ∧
    (c.skips.map (·.key)).Nodup ∧
    (∀ n ∈ c.skips, ∃ r, t.rules.firstSkip? c.config n.key = some r ∧ n.rule = r.name ∧
      n.reason = r.reason) ∧
    (∀ n ∈ c.skips, c.config.contains n.key = false) ∧
    (c.expected = .reject →
      ∃ f ∈ t.fields, c.kind.key? = some f.key ∧ ¬ t.rules.Skips c.config f.key) := by
  intro c hc
  have keys : c.skips.map (·.key)
      = ((reached c.kind t.fields).filter fun f => t.rules.Skips c.config f.key).map (·.key) := by
    rw [skips_of_mem_cases hc, map_key_filterMap_note?]
  have sub : List.Sublist ((reached c.kind t.fields).filter fun f => t.rules.Skips c.config f.key)
      t.fields := List.filter_sublist.trans (List.takeWhile_sublist _)
  refine ⟨keys, keys ▸ t.keys_nodup.sublist (sub.map _), fun n hn => ?_,
    fun n hn => contains_of_mem_skips hc hn, exists_kept_of_rejected hc⟩
  obtain ⟨f, -, r, hr, rfl⟩ := exists_field_of_mem_skips hc hn
  exact ⟨r, hr, rfl, rfl⟩

/-- Of the two rules that skip the interface in basic mode, the first one is noted. -/
theorem skips_of_cascade :
    (cascadeBasic ∈ cascade.cases ∧ cascadeBasic.skips.map (·.key)
      = ((reached .valid cascade.fields).filter
          fun f => cascade.rules.Skips cascadeBasic.config f.key).map (·.key) ∧
      cascadeBasic.config.contains Key.alternateInterface = false) ∧
    cascadeLacking ∈ cascade.cases ∧ ∃ f ∈ cascade.fields,
      cascadeLacking.kind.key? = some f.key ∧ ¬ cascade.rules.Skips cascadeLacking.config f.key := by
  have basic : cascadeBasic ∈ cascade.cases := by decide
  have lacking : cascadeLacking ∈ cascade.cases := by decide
  obtain ⟨keys, -, -, absent, -⟩ := skips_of_final_options cascade cascadeBasic basic
  obtain ⟨-, -, -, -, kept⟩ := skips_of_final_options cascade cascadeLacking lacking
  exact ⟨⟨basic, keys, absent ⟨_, "interface-needs-port", "nothing to bind"⟩ (by decide)⟩,
    lacking, kept rfl⟩

/-! ### Same options -/

theorem note?_congr {o p : OptionMap} (h : (o == p) = true) (s : RuleSet) : s.note? o = s.note? p := by
  funext f
  rw [RuleSet.note?, RuleSet.note?, RuleSet.firstSkip?_congr fun _ _ _ => OptionMap.beq_iff.1 h _]

theorem kind_eq_of_same_options {d : Case} (hc : c ∈ t.cases) (hd : d ∈ t.cases)
    (same : (c.config == d.config) = true) : c.kind = d.kind := by
  obtain ⟨-, pos⟩ := exists_case_iff.1 ⟨c, hc, rfl, same⟩
  exact RuleSet.kind_unique t.wellOrdered pos (multiplicity_pos_of_mem_cases hd)

/-- Two cases with the same options expect the same, for the same reason and with the same notes; so no
server is asked both to accept and to reject one configuration. -/
theorem same_options_same_answer (t : Table) : ∀ c ∈ t.cases, ∀ d ∈ t.cases,
    (c.config == d.config) = true → c.expected = d.expected ∧ c.kind = d.kind ∧ c.skips = d.skips := by
  intro c hc d hd same
  have kind := kind_eq_of_same_options hc hd same
  refine ⟨?_, kind, ?_⟩
  · rw [expected_of_mem_cases hc, expected_of_mem_cases hd, kind]
  · rw [skips_of_mem_cases hc, skips_of_mem_cases hd, kind, note?_congr same]

/-- The two cases with the wrong interface give the same answer. -/
theorem same_answer_of_cascade :
    cascadeTwin 2 ∈ cascade.cases ∧ cascadeTwin 5 ∈ cascade.cases ∧
      (cascadeTwin 2).kind = (cascadeTwin 5).kind :=
  ⟨by decide, by decide,
    (same_options_same_answer cascade (cascadeTwin 2) (by decide) (cascadeTwin 5) (by decide)
      (by decide)).2.1⟩

end Table
end ServerTrials.Trial
