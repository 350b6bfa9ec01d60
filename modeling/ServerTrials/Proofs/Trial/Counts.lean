import ServerTrials.Proofs.Trial.Leaves

/-!
The count of cases that is told in advance.

The count goes over the fields from the last to the first and stops at a limit, the walk goes from the first
to the last and branches. Between them stands `leafCount`, the same recurrence without a limit: stopping at
the limit after each step is stopping once at the end, and a walk in which no rule skips a field has as many
leaves below a node as the recurrence says. That no rule skips is seen from the notes, since below every node
there is a leaf, and it has all the notes made above it.
-/

namespace ServerTrials.Trial

variable {s : RuleSet} {f : Field} {fs : List Field} {o : OptionMap} {skips : List Skip} {l : Leaf}

/-! ### Counting with and without the limit -/

/-- The leaves of fields of which none is skipped. -/
def leafCount : List Field → Nat
  | [] => 1
  | f :: fs => (f.acceptable.length + if f.optional then 1 else 0) * leafCount fs + f.errors.length
      + if f.optional then 0 else 1

namespace Table

theorem addLimited_min (a b : Nat) : addLimited (min a countLimit) b = min (a + b) countLimit := by
  unfold addLimited
  omega

/-- A factor that has stopped at the limit counts as the whole one, and no times it is still nothing. -/
theorem mulLimited_min (a b : Nat) : mulLimited a (min b countLimit) = min (a * b) countLimit := by
  unfold mulLimited
  rcases Nat.le_total b countLimit with within | beyond
  · rw [Nat.min_eq_left within]
  · rw [Nat.min_eq_right beyond]
    rcases Nat.eq_zero_or_pos a with rfl | pos
    · rw [Nat.zero_mul, Nat.zero_mul]
    · have reached : countLimit ≤ a * countLimit := Nat.le_mul_of_pos_left countLimit pos
      have more : a * countLimit ≤ a * b := Nat.mul_le_mul_left a beyond
      omega

theorem countFrom_min (f : Field) (fs : List Field) :
    countFrom f (min (leafCount fs) countLimit) = min (leafCount (f :: fs)) countLimit := by
  simp only [countFrom, leafCount, mulLimited_min, addLimited_min]

theorem foldr_countFrom : ∀ fs : List Field, fs.foldr countFrom 1 = min (leafCount fs) countLimit
  | [] => rfl
  | f :: fs => by rw [List.foldr_cons, foldr_countFrom fs, countFrom_min]

end Table

/-! ### Leaves below a node -/

/-- Every node has a leaf below it. -/
theorem expand_ne_nil (s : RuleSet) (fs : List Field) (o : OptionMap) (skips : List Skip) :
    expand s fs o skips ≠ [] := by
  induction fs generalizing o skips with
  | nil => exact List.cons_ne_nil _ _
  | cons f fs ih =>
    cases hr : s.skipping? o f.key with
    | some r =>
      rw [expand_cons_of_skip hr]
      exact ih o _
    | none =>
      rw [expand_cons_of_none hr]
      refine List.append_ne_nil_of_right_ne_nil _ ?_
      split
      · exact ih o skips
      · exact List.cons_ne_nil _ _

/-- A leaf has the notes that were made above it. -/
theorem exists_skips_eq_append (h : l ∈ expand s fs o skips) : ∃ later, l.skips = skips ++ later := by
  induction fs generalizing o skips with
  | nil =>
    rw [List.mem_singleton.1 h]
    exact ⟨[], (List.append_nil skips).symm⟩
  | cons f fs ih =>
    rcases mem_expand_cons h with ⟨o', -, h⟩ | ⟨hskips, -⟩
    · obtain ⟨later, hl⟩ := ih h
      exact ⟨(s.note? o f).toList ++ later, by rw [hl, List.append_assoc]⟩
    · exact ⟨[], by rw [hskips, List.append_nil]⟩

/-- The leaf further down would show the note of a skip. -/
theorem skipping?_eq_none_of_unnoted (unnoted : ∀ l ∈ expand s (f :: fs) o skips, l.skips = skips) :
    s.skipping? o f.key = none := by
  by_contra skipped
  obtain ⟨r, hr⟩ := Option.ne_none_iff_exists'.1 skipped
  rw [expand_cons_of_skip hr] at unnoted
  obtain ⟨l, hl⟩ := List.exists_mem_of_ne_nil _ (expand_ne_nil s fs o _)
  obtain ⟨later, noted⟩ := exists_skips_eq_append hl
  rw [unnoted l hl, List.append_assoc] at noted
  have length := congrArg List.length noted
  simp at length

/-- Without notes the leaves are as many as the recurrence says. -/
theorem length_expand (unnoted : ∀ l ∈ expand s fs o skips, l.skips = skips) :
    (expand s fs o skips).length = leafCount fs := by
  induction fs generalizing o with
  | nil => rfl
  | cons f fs ih =>
    have kept := skipping?_eq_none_of_unnoted unnoted
    rw [expand_cons_of_none kept] at unnoted ⊢
    have branch : ∀ v ∈ f.acceptable, (expand s fs (o.insert f.key v) skips).length = leafCount fs := by
      intro v hv
      refine ih fun l hl => unnoted l ?_
      rw [List.append_assoc]
      exact List.mem_append_left _ (List.mem_flatMap.2 ⟨v, hv, hl⟩)
    have last : (if f.optional = true then expand s fs o skips
        else [(⟨o, .reject, .missingRequired f.key, skips⟩ : Leaf)]).length
          = if f.optional = true then leafCount fs else 1 := by
      split
      next optional =>
        exact ih fun l hl => unnoted l (List.mem_append_right _ (by rwa [if_pos optional]))
      next => rfl
    rw [List.length_append, List.length_append, List.length_flatMap, List.map_congr_left branch,
      List.map_const', List.sum_replicate_nat, List.length_map, last, leafCount]
    by_cases optional : f.optional = true
    · simp only [if_pos optional, Nat.add_mul, Nat.one_mul, Nat.add_zero, Nat.add_right_comm]
    · simp only [if_neg optional, Nat.add_zero]

/-- Without rules there is nothing to note. -/
theorem skips_of_mem_expand_empty (h : l ∈ expand .empty fs o skips) : l.skips = skips := by
  induction fs generalizing o with
  | nil => rw [List.mem_singleton.1 h]
  | cons f fs ih =>
    rcases mem_expand_cons h with ⟨o', -, h⟩ | ⟨hskips, -⟩
    · refine ih (o := o') ?_
      have unnoted : RuleSet.empty.note? o f = none := rfl
      rwa [unnoted, Option.toList_none, List.append_nil] at h
    · exact hskips

/-! ### The cases of a table -/

namespace Table

variable {t : Table}

theorem length_cases (t : Table) : t.cases.length = t.leaves.length := by
  rw [cases, List.length_mapIdx]

theorem length_cases_pos (t : Table) : 0 < t.cases.length := by
  rw [length_cases, leaves, List.length_pos_iff]
  exact expand_ne_nil t.rules t.fields .empty []

theorem expectedCaseCount_of_unnoted (unnoted : ∀ c ∈ t.cases, c.skips = []) :
    t.expectedCaseCount = min t.cases.length countLimit := by
  have leaves : ∀ l ∈ t.leaves, l.skips = [] := by
    rw [← t.map_toLeaf_cases]
    exact List.forall_mem_map.2 unnoted
  rw [expectedCaseCount, foldr_countFrom, length_cases, Table.leaves, length_expand leaves]

theorem unnoted_of_withoutRules {fields : List Field} (h : withoutRules fields = .ok t) :
    ∀ c ∈ t.cases, c.skips = [] := by
  have none : t.rules = .empty := by
    rw [withoutRules, build] at h
    split at h
    · contradiction
    · exact Except.ok.inj h ▸ rfl
  intro c hc
  have leaf := toLeaf_mem_expand hc
  rw [none] at leaf
  exact skips_of_mem_expand_empty leaf

/-- The count told in advance is right, up to the limit at which it stops, whenever no case bears a note that
a rule left a field out; so it always is without rules. And every table has a case. -/
theorem expectedCaseCount_eq (t : Table) :
    ((∀ c ∈ t.cases, c.skips = []) → t.expectedCaseCount = min t.cases.length countLimit) ∧
    (∀ fields, withoutRules fields = .ok t → t.expectedCaseCount = min t.cases.length countLimit) ∧
    0 < t.cases.length :=
  ⟨expectedCaseCount_of_unnoted, fun _ h => expectedCaseCount_of_unnoted (unnoted_of_withoutRules h),
    t.length_cases_pos⟩

/-- Optional fields that share their acceptable values and have no others. -/
theorem leafCount_map (values : List Json) : ∀ keys : List String,
    leafCount (keys.map fun key => ⟨key, values, [], true⟩) = (values.length + 1) ^ keys.length
  | [] => rfl
  | key :: keys => by
    rw [List.map_cons, leafCount, leafCount_map values keys, List.length_cons, Nat.pow_succ, Nat.mul_comm]
    rfl

/-- Four fields with 65536 acceptable values each. -/
def wideFields : List Field :=
  [Key.family, Key.protocol, Key.primaryPort, Key.alternatePort].map fun key =>
    ⟨key, List.replicate 65536 (.bool true), [], true⟩

/-- More cases than the limit. -/
def wide : Table where
  fields := wideFields
  rules := .empty
  sound := by decide

/-- The same behind a required field that has no acceptable value, and with a rule that skips nothing. -/
def gated : Table where
  fields := ⟨Key.mode, [], [.string "half"], false⟩ :: wideFields
  rules := .ofList [⟨"port-needs-full", .equals Key.mode (.string "full"), [Key.alternatePort], "no mode"⟩]
  sound := by decide

/-- One count stops at the limit; the other passes it on the way and still comes to the two cases there
are. -/
theorem expectedCaseCount_of_gated :
    (withoutRules wideFields = .ok wide ∧ wide.expectedCaseCount = countLimit ∧
      countLimit ≤ wide.cases.length) ∧
    (∀ c ∈ gated.cases, c.skips = []) ∧ gated.expectedCaseCount = 2 := by
  have built : withoutRules wideFields = .ok wide := build_of_sound wide.sound
  have limit : wide.expectedCaseCount = countLimit := by
    have fields : wide.fields = wideFields := rfl
    rw [expectedCaseCount, foldr_countFrom, fields, wideFields, leafCount_map, List.length_replicate]
    decide
  have counted := (expectedCaseCount_eq wide).2.1 _ built
  have unnoted : ∀ c ∈ gated.cases, c.skips = [] := by decide
  refine ⟨⟨built, limit, ?_⟩, unnoted, ?_⟩
  · rw [limit] at counted
    exact counted.le.trans (Nat.min_le_left _ _)
  · rw [(expectedCaseCount_eq gated).1 unnoted]
    decide

end Table
end ServerTrials.Trial
