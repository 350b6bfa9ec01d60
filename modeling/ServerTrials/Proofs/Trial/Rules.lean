import Mathlib.Data.List.Find
import ServerTrials.Proofs.Options
import ServerTrials.Trial.Rule

/-!
What a rule set skips, said without its index.

A rule skips a key if the key is one of its targets and its condition holds. Under a key the index holds the
places of the rules that target it, in rising order, so looking a key up finds the first rule in the order of
declaration that skips it. The answer depends only on the keys that the conditions of these rules read.
-/

namespace ServerTrials.Trial

namespace Condition

theorem get?_beq_some (o : OptionMap) (key : String) (value : Json) :
    (o.get? key == some value) = decide (o.value? key = some value.canonical) := by
  rw [Bool.eq_iff_iff, decide_eq_true_iff, OptionMap.value?]
  cases o.get? key with
  | none => simp
  | some v => rw [Option.some_beq_some, Json.beq_iff, Option.map_some, Option.some.injEq]

theorem equals_holds_iff {o : OptionMap} {key : String} {value : Json} (plain : value.isPlain = true) :
    (equals key value).holds o = true ↔ o.get? key = some value := by
  rw [holds]
  cases o.get? key with
  | none => simp
  | some v =>
    rw [Option.some_beq_some, Option.some.injEq]
    exact ⟨Json.eq_of_beq_plain plain, fun h => h ▸ BEq.rfl⟩

theorem differs_holds_iff {o : OptionMap} {key : String} {value : Json} (plain : value.isPlain = true) :
    (differs key value).holds o = true ↔ o.get? key ≠ some value := by
  rw [Ne, ← equals_holds_iff plain, holds, holds, Bool.not_eq_true', Bool.not_eq_true]

/-- Only the option that a condition reads matters to it. -/
theorem holds_congr {o p : OptionMap} (c : Condition) (h : o.value? c.key = p.value? c.key) :
    c.holds o = c.holds p := by
  cases c with
  | equals name value => rw [key] at h; rw [holds, holds, get?_beq_some, get?_beq_some, h]
  | differs name value => rw [key] at h; rw [holds, holds, get?_beq_some, get?_beq_some, h]

end Condition

/-- While its condition holds on the options, a rule skips its targets. -/
def Rule.Skips (r : Rule) (o : OptionMap) (key : String) : Prop :=
  key ∈ r.targets ∧ r.condition.holds o = true

instance (r : Rule) (o : OptionMap) (key : String) : Decidable (r.Skips o key) :=
  inferInstanceAs (Decidable (_ ∧ _))

theorem pairwise_zipIdx {α : Type} (l : List α) : l.zipIdx.Pairwise fun a b => a.2 < b.2 := by
  have places : (l.zipIdx.map Prod.snd).Pairwise (· < ·) := by
    rw [List.zipIdx_map_snd]
    exact List.pairwise_lt_range'
  exact List.pairwise_map.1 places

namespace Rule.Index

theorem find_cons (entry : String × List Nat) (index : Rule.Index) (key : String) :
    find (entry :: index) key = if entry.1 = key then entry.2 else find index key := by
  rw [find]

theorem find_file (place : Nat) (index : Rule.Index) (target key : String) :
    (file place index target).find key
      = if target = key then index.find key ++ [place] else index.find key := by
  induction index with
  | nil => rw [file, find_cons]; rfl
  | cons entry index ih =>
    rw [file]
    by_cases ht : entry.1 = target
    · rw [if_pos ht, find_cons, find_cons, ht]
      by_cases hk : target = key <;> simp [hk]
    · rw [if_neg ht, find_cons, find_cons, ih]
      by_cases hk : entry.1 = key
      · have hne : target ≠ key := fun e => ht (hk.trans e.symm)
        rw [if_pos hk, if_pos hk, if_neg hne]
      · rw [if_neg hk, if_neg hk]

/-- Filing a place under the targets of its rule adds it under a key as often as the key is a target. -/
theorem find_fileAll (rule : Rule × Nat) (index : Rule.Index) (key : String) :
    (fileAll index rule).find key
      = index.find key ++ List.replicate (rule.1.targets.count key) rule.2 := by
  suffices h : ∀ (targets : List String) (index : Rule.Index),
      (targets.foldl (file rule.2) index).find key
        = index.find key ++ List.replicate (targets.count key) rule.2 from h rule.1.targets index
  intro targets
  induction targets with
  | nil => intro index; simp
  | cons target targets ih =>
    intro index
    rw [List.foldl_cons, ih, find_file, List.count_cons]
    by_cases ht : target = key
    · simp [ht, List.replicate_succ]
    · simp [ht]

/-- Under a key stand the places of the rules that target it, in their order. -/
theorem find_ofRules (rules : List Rule) (key : String) :
    (ofRules rules).find key
      = rules.zipIdx.flatMap fun r => List.replicate (r.1.targets.count key) r.2 := by
  suffices h : ∀ (placed : List (Rule × Nat)) (index : Rule.Index),
      (placed.foldl fileAll index).find key
        = index.find key ++ placed.flatMap fun r => List.replicate (r.1.targets.count key) r.2 by
    rw [ofRules, h rules.zipIdx []]; rfl
  intro placed
  induction placed with
  | nil => intro index; simp
  | cons rule placed ih =>
    intro index
    rw [List.foldl_cons, ih, find_fileAll, List.flatMap_cons, List.append_assoc]

theorem count_ne_zero_iff {rule : Rule} {key : String} :
    rule.targets.count key ≠ 0 ↔ key ∈ rule.targets := by
  rw [Ne, List.count_eq_zero, not_not]

/-- The index files all rules under their targets and nothing else. -/
theorem mem_find_ofRules {rules : List Rule} {key : String} {place : Nat} :
    place ∈ (ofRules rules).find key ↔ ∃ r, rules[place]? = some r ∧ key ∈ r.targets := by
  simp only [find_ofRules, List.mem_flatMap, List.mem_replicate, count_ne_zero_iff]
  constructor
  · rintro ⟨⟨r, i⟩, hr, target, rfl⟩
    exact ⟨r, List.mk_mem_zipIdx_iff_getElem?.1 hr, target⟩
  · rintro ⟨r, hr, target⟩
    exact ⟨(r, place), List.mk_mem_zipIdx_iff_getElem?.2 hr, target, rfl⟩

/-- What stands under a key rises, with repetitions where a rule repeats a target. -/
theorem pairwise_find_ofRules (rules : List Rule) (key : String) :
    ((ofRules rules).find key).Pairwise (· ≤ ·) := by
  rw [find_ofRules, List.pairwise_flatMap]
  refine ⟨fun r _ => List.pairwise_replicate.2 (Or.inr (Nat.le_refl _)), ?_⟩
  refine (pairwise_zipIdx rules).imp fun lt i hi j hj => ?_
  rw [List.eq_of_mem_replicate hi, List.eq_of_mem_replicate hj]
  exact Nat.le_of_lt lt

theorem mem_keys_file {place : Nat} {index : Rule.Index} {target key : String} :
    key ∈ (file place index target).map (·.1) ↔ key = target ∨ key ∈ index.map (·.1) := by
  induction index with
  | nil => simp [file]
  | cons entry index ih =>
    rw [file]
    by_cases ht : entry.1 = target
    · simp [ht]
    · rw [if_neg ht, List.map_cons, List.mem_cons, ih, List.map_cons, List.mem_cons]
      exact or_left_comm

theorem mem_keys_fileAll {rule : Rule × Nat} {index : Rule.Index} {key : String} :
    key ∈ (fileAll index rule).map (·.1) ↔ key ∈ rule.1.targets ∨ key ∈ index.map (·.1) := by
  rw [fileAll]
  generalize rule.1.targets = targets
  induction targets generalizing index with
  | nil => simp
  | cons target targets ih =>
    rw [List.foldl_cons, ih, mem_keys_file, List.mem_cons]
    exact or_left_comm.trans or_assoc.symm

/-- The keys of the index are the targets of the rules. -/
theorem mem_keys_ofRules {rules : List Rule} {key : String} :
    key ∈ (ofRules rules).map (·.1) ↔ ∃ r ∈ rules, key ∈ r.targets := by
  suffices h : ∀ (placed : List (Rule × Nat)) (index : Rule.Index),
      key ∈ (placed.foldl fileAll index).map (·.1) ↔
        (∃ r ∈ placed.map Prod.fst, key ∈ r.targets) ∨ key ∈ index.map (·.1) by
    rw [ofRules, h rules.zipIdx [], List.zipIdx_map_fst]
    simp
  intro placed
  induction placed with
  | nil => intro index; simp
  | cons rule placed ih =>
    intro index
    rw [List.foldl_cons, ih, mem_keys_fileAll, List.map_cons, List.exists_mem_cons_iff]
    exact or_left_comm.trans or_assoc.symm

end Rule.Index

namespace RuleSet

/-- Some rule of the set skips the key. -/
def Skips (s : RuleSet) (o : OptionMap) (key : String) : Prop := ∃ r ∈ s.rules, r.Skips o key

instance (s : RuleSet) (o : OptionMap) (key : String) : Decidable (s.Skips o key) :=
  inferInstanceAs (Decidable (∃ r ∈ s.rules, r.Skips o key))

/-- The first rule in the order of declaration that skips the key. -/
def firstSkip? (s : RuleSet) (o : OptionMap) (key : String) : Option Rule :=
  s.rules.find? fun r => r.Skips o key

/-- Under a key are filed the rules that target it, in their order. -/
theorem filed_eq (s : RuleSet) (key : String) :
    s.filed key = s.rules.flatMap fun r => List.replicate (r.targets.count key) r := by
  have found : ∀ r ∈ s.rules.zipIdx,
      (List.replicate (r.1.targets.count key) r.2).filterMap (fun i => s.rules[i]?)
        = List.replicate (r.1.targets.count key) r.1 := fun r hr => by
    rw [List.filterMap_replicate, List.mem_zipIdx_iff_getElem?.1 hr]
  rw [filed, s.indexed, Rule.Index.find_ofRules, List.filterMap_flatMap, List.flatMap_congr found]
  conv_rhs => rw [← List.zipIdx_map_fst 0 s.rules, List.flatMap_map]

/-- The index finds the rule that a scan of the rules finds. -/
theorem skipping?_eq_firstSkip? (s : RuleSet) (o : OptionMap) (key : String) :
    s.skipping? o key = s.firstSkip? o key := by
  rw [skipping?, filed_eq, firstSkip?]
  induction s.rules with
  | nil => rfl
  | cons r rules ih =>
    rw [List.flatMap_cons, List.find?_append, ih, List.find?_cons, List.find?_replicate]
    by_cases ht : key ∈ r.targets
    · rw [if_neg (Rule.Index.count_ne_zero_iff.2 ht)]
      by_cases hc : r.condition.holds o = true <;> simp [Rule.Skips, ht, hc]
    · simp [List.count_eq_zero.2 ht, Rule.Skips, ht]

theorem firstSkip?_eq_none_iff {s : RuleSet} {o : OptionMap} {key : String} :
    s.firstSkip? o key = none ↔ ¬ s.Skips o key := by
  simp [firstSkip?, Skips]

theorem skips_of_firstSkip?_eq_some {s : RuleSet} {o : OptionMap} {key : String} {r : Rule}
    (h : s.firstSkip? o key = some r) : s.Skips o key := by
  by_contra kept
  rw [firstSkip?_eq_none_iff.2 kept] at h
  exact absurd h (by simp)

theorem skipping?_eq_none_iff {s : RuleSet} {o : OptionMap} {key : String} :
    s.skipping? o key = none ↔ ¬ s.Skips o key := by
  rw [skipping?_eq_firstSkip?, firstSkip?_eq_none_iff]

theorem exists_skipping?_of_skips {s : RuleSet} {o : OptionMap} {key : String} (h : s.Skips o key) :
    ∃ r, s.skipping? o key = some r :=
  Option.ne_none_iff_exists'.1 fun none => skipping?_eq_none_iff.1 none h

/-- Maps that agree on what the rules for a key read have the key skipped alike. -/
theorem firstSkip?_congr {s : RuleSet} {o p : OptionMap} {key : String}
    (h : ∀ r ∈ s.rules, key ∈ r.targets → o.value? r.condition.key = p.value? r.condition.key) :
    s.firstSkip? o key = s.firstSkip? p key := by
  refine List.find?_congr fun r hr => ?_
  rw [decide_eq_decide]
  refine and_congr_right fun ht => ?_
  rw [r.condition.holds_congr (h r hr ht)]

/-! ### Any list of rules -/

theorem firstSkip?_eq_some_iff {s : RuleSet} {o : OptionMap} {key : String} {r : Rule} :
    s.firstSkip? o key = some r ↔
      ∃ before after, s.rules = before ++ r :: after ∧ r.Skips o key ∧ ∀ q ∈ before, ¬ q.Skips o key := by
  simp only [firstSkip?, List.find?_eq_some_iff_append, decide_eq_true_iff, Bool.not_eq_true',
    decide_eq_false_iff_not]
  constructor
  · rintro ⟨skips, before, after, split, first⟩
    exact ⟨before, after, split, skips, first⟩
  · rintro ⟨before, after, split, skips, first⟩
    exact ⟨skips, before, after, split, first⟩

theorem references_iff {s : RuleSet} {key : String} :
    s.references key = true ↔ ∃ r ∈ s.rules, r.condition.key = key ∨ key ∈ r.targets := by
  have filed : s.index.any (·.1 == key) = true ↔ ∃ r ∈ s.rules, key ∈ r.targets := by
    rw [← Rule.Index.mem_keys_ofRules, ← s.indexed, List.any_eq_true, List.mem_map]
    simp only [beq_iff_eq]
  have read : s.rules.any (·.condition.key == key) = true ↔ ∃ r ∈ s.rules, r.condition.key = key := by
    rw [List.any_eq_true]
    simp only [beq_iff_eq]
  rw [references, Bool.or_eq_true, filed, read, or_comm, ← exists_or]
  exact exists_congr fun r => and_or_left.symm

/-- Whatever the rules are, also with a name or a target that comes twice, or with a rule that reads what it
skips: the answer for a key is the first rule in the order of declaration that targets the key and whose
condition holds, and none iff there is no such rule. A key is referenced iff some rule reads or skips it. The
index gets there with the places of just the rules that target the key, all of them within the list, from the
first on. -/
theorem lookup_agrees_with_scan (rules : List Rule) (key : String) :
    (∀ (o : OptionMap) (r : Rule), (ofList rules).skipping? o key = some r ↔
      ∃ before after, rules = before ++ r :: after ∧ r.Skips o key ∧
        ∀ q ∈ before, ¬ q.Skips o key) ∧
    (∀ o : OptionMap, (ofList rules).skipping? o key = none ↔ ∀ r ∈ rules, ¬ r.Skips o key) ∧
    ((ofList rules).references key = true ↔ ∃ r ∈ rules, r.condition.key = key ∨ key ∈ r.targets) ∧
    (∀ place, place ∈ (ofList rules).index.find key ↔ ∃ r, rules[place]? = some r ∧ key ∈ r.targets) ∧
    ((ofList rules).index.find key).Pairwise (· ≤ ·) := by
  refine ⟨fun o r => ?_, fun o => ?_, references_iff, fun place => Rule.Index.mem_find_ofRules,
    Rule.Index.pairwise_find_ofRules rules key⟩
  · rw [skipping?_eq_firstSkip?, firstSkip?_eq_some_iff]
    exact Iff.rfl
  · rw [skipping?_eq_none_iff, Skips]
    simp only [not_exists, not_and]
    exact Iff.rfl

-- Two rules of one name, of which the first skips twice what it reads.
example :
    let s := ofList [⟨"r", .equals "mode" .null, ["mode", "port", "mode"], "reads what it skips"⟩,
      ⟨"r", .differs "mode" .null, ["mode"], "the same name"⟩]
    s.index.find "mode" = [0, 0, 1] ∧ (s.skipping? .empty "mode").map (·.reason) = some "the same name" := by
  decide

end RuleSet
end ServerTrials.Trial
