import Mathlib.Data.List.Forall2
import ServerTrials.Proofs.Trial.Pruning
import ServerTrials.Proofs.Trial.Violations

/-!
The order of the rules shows in the noted reasons alone.

At every node the walk asks whether some rule skips the next field, and that does not depend on the order of
the rules; only which of them is noted does. So the walks with the rules in two orders visit the same tree, and
their leaves have the same outline: all but the rules that the notes name.
-/

namespace ServerTrials.Trial

/-- What stays of a leaf if it is not said which rules skipped its fields. -/
def Leaf.outline (l : Leaf) : (OptionMap × Expectation × CaseKind) × List String :=
  (l.demand, l.skips.map (·.key))

variable {s s' : RuleSet} {f : Field} {fs : List Field} {o : OptionMap} {skips skips' : List Skip}

/-! ### Two orders of rules -/

/-- The order of rules does not matter to whether one of them skips a key. -/
theorem RuleSet.skips_iff_of_perm (perm : s.rules.Perm s'.rules) (o : OptionMap) (key : String) :
    s.Skips o key ↔ s'.Skips o key :=
  exists_congr fun _ => and_congr_left fun _ => perm.mem_iff

theorem map_outline_errors (keys : skips.map (·.key) = skips'.map (·.key)) (f : Field) (o : OptionMap) :
    (f.errors.map fun v =>
        (⟨o.insert f.key v, .reject, .errorValue f.key, skips⟩ : Leaf)).map Leaf.outline
      = (f.errors.map fun v =>
          (⟨o.insert f.key v, .reject, .errorValue f.key, skips'⟩ : Leaf)).map Leaf.outline := by
  simp only [List.map_map, Function.comp_def, Leaf.outline, Leaf.demand, keys]

/-- Rules that skip the same keys have the same leaves below every node, up to the rules that are noted. -/
theorem map_outline_expand (same : ∀ o key, s.Skips o key ↔ s'.Skips o key)
    (keys : skips.map (·.key) = skips'.map (·.key)) (fs : List Field) (o : OptionMap) :
    (expand s fs o skips).map Leaf.outline = (expand s' fs o skips').map Leaf.outline := by
  -- over the fields still to come, whatever was chosen and noted before
  induction fs generalizing o skips skips' with
  | nil => simp only [expand, List.map_cons, List.map_nil, Leaf.outline, Leaf.demand, keys]
  | cons f fs ih =>
    by_cases skip : s.Skips o f.key
    · obtain ⟨r, hr⟩ := RuleSet.exists_skipping?_of_skips skip
      obtain ⟨r', hr'⟩ := RuleSet.exists_skipping?_of_skips ((same o f.key).1 skip)
      rw [expand_cons_of_skip hr, expand_cons_of_skip hr']
      exact ih (by rw [List.map_append, List.map_append, keys]; rfl) o
    · have kept := mt (same o f.key).2 skip
      rw [expand_cons_of_none (RuleSet.skipping?_eq_none_iff.2 skip),
        expand_cons_of_none (RuleSet.skipping?_eq_none_iff.2 kept)]
      simp only [List.map_append, List.map_flatMap]
      congr 1
      · rw [map_outline_errors keys f o, List.flatMap_congr fun v _ => ih keys (o.insert f.key v)]
      · split
        · exact ih keys o
        · simp only [List.map_cons, List.map_nil, Leaf.outline, Leaf.demand, keys]

/-! ### Two lists with the same readings -/

/-- Lists that read alike are related item by item, as far as alike items of them are. -/
theorem forall₂_of_map_eq {α β γ : Type} {f : α → γ} {g : β → γ} {R : α → β → Prop} {as : List α}
    {bs : List β} (alike : as.map f = bs.map g) (related : ∀ a ∈ as, ∀ b ∈ bs, f a = g b → R a b) :
    List.Forall₂ R as bs := by
  have pairs : List.Forall₂ (· = ·) (as.map f) (bs.map g) := by
    rw [alike]
    exact List.forall₂_refl _
  rw [List.forall₂_map_left_iff, List.forall₂_map_right_iff] at pairs
  obtain ⟨length, same⟩ := List.forall₂_iff_zip.1 pairs
  refine List.forall₂_iff_zip.2 ⟨length, fun {a b} hab => ?_⟩
  obtain ⟨ha, hb⟩ := List.of_mem_zip hab
  exact related a ha b hb (same hab)

/-! ### Cases -/

/-- The note names one of the rules, with its reason, and that rule skips the noted key on the options. -/
def Skip.Justified (rules : List Rule) (o : OptionMap) (n : Skip) : Prop :=
  ∃ r ∈ rules, r.Skips o n.key ∧ n.rule = r.name ∧ n.reason = r.reason

/-- Two cases differ at most in the rules that they note for the fields that were skipped, and all these rules
skip these fields. -/
structure Case.SameUpToReasons (rules : List Rule) (c d : Case) : Prop where
  ordinal : c.ordinal = d.ordinal
  config : c.config = d.config
  expected : c.expected = d.expected
  kind : c.kind = d.kind
  skips : List.Forall₂ (fun n m => n.key = m.key ∧ n.Justified rules c.config ∧
    m.Justified rules d.config) c.skips d.skips

namespace Table

variable {t u : Table} {c d : Case}

/-- Rules that form a table with the fields do so in any order. -/
theorem Valid.perm {fields : List Field} {rules rules' : List Rule} (h : Valid fields rules)
    (perm : rules'.Perm rules) : Valid fields rules' where
  keys := h.keys
  values := h.values
  names := (perm.map _).nodup_iff.2 h.names
  ordered r hr := h.ordered r (perm.mem_iff.1 hr)

theorem map_outline_cases (t : Table) :
    t.cases.map (fun c => (c.toLeaf.outline, c.ordinal)) = (t.leaves.map Leaf.outline).zipIdx := by
  rw [cases, List.mapIdx_eq_zipIdx_map, List.map_map, List.zipIdx_map]
  rfl

theorem justified_of_mem_skips (h : c ∈ t.cases) {n : Skip} (hn : n ∈ c.skips) :
    n.Justified t.rules.rules c.config := by
  obtain ⟨f, -, r, hr, rfl⟩ := exists_field_of_mem_skips h hn
  obtain ⟨before, after, split, skips, -⟩ := RuleSet.firstSkip?_eq_some_iff.1 hr
  exact ⟨r, by simp [split], skips, rfl, rfl⟩

/-- Cases of the two tables that have one outline and one number differ at most in reasons. -/
theorem sameUpToReasons_of_outline_eq (perm : u.rules.rules.Perm t.rules.rules) (hc : c ∈ t.cases)
    (hd : d ∈ u.cases) (alike : (c.toLeaf.outline, c.ordinal) = (d.toLeaf.outline, d.ordinal)) :
    c.SameUpToReasons t.rules.rules d := by
  simp only [Leaf.outline, Leaf.demand, Prod.mk.injEq] at alike
  obtain ⟨⟨⟨config, expected, kind⟩, keys⟩, ordinal⟩ := alike
  refine ⟨ordinal, config, expected, kind, forall₂_of_map_eq keys fun n hn m hm key => ?_⟩
  obtain ⟨r, hr, skips⟩ := justified_of_mem_skips hd hm
  exact ⟨key, justified_of_mem_skips hc hn, r, perm.mem_iff.1 hr, skips⟩

/-- With its rules in another order, the fields of a table form a table again. It has the same cases in the same
order, with the same numbers, options, expectations and kinds, and each notes the same keys. Only the rule that
is noted for a key may be another one; then both skip the key on the options of the case. -/
theorem rule_order_shows_in_reasons (t : Table) (rules : List Rule) (perm : rules.Perm t.rules.rules) :
    ∃ u, build t.fields rules = .ok u ∧
      List.Forall₂ (Case.SameUpToReasons t.rules.rules) t.cases u.cases := by
  have valid : Valid t.fields t.rules.rules := violation?_eq_none_iff_valid.1 t.sound
  have sound : violation? t.fields rules = none := violation?_eq_none_iff_valid.2 (valid.perm perm)
  refine ⟨⟨t.fields, .ofList rules, sound⟩, build_of_sound sound, ?_⟩
  generalize hu : (⟨t.fields, .ofList rules, sound⟩ : Table) = u
  have perm' : u.rules.rules.Perm t.rules.rules := by
    rw [← hu]
    exact perm
  have leaves : t.leaves.map Leaf.outline = u.leaves.map Leaf.outline := by
    rw [Table.leaves, Table.leaves, ← hu]
    exact map_outline_expand (RuleSet.skips_iff_of_perm perm.symm) rfl t.fields .empty
  refine forall₂_of_map_eq ?_ fun c hc d hd => sameUpToReasons_of_outline_eq perm' hc hd
  rw [map_outline_cases, map_outline_cases, leaves]

/-- The cascade with its rules in the opposite order. -/
def reversedCascade : Table where
  fields := cascade.fields
  rules := .ofList cascade.rules.rules.reverse
  sound := by decide

/-- In basic mode it notes the other one of the two rules that skip the interface, and nothing else changes. -/
theorem reasons_of_reversedCascade :
    cascade.rules.rules.reverse.Perm cascade.rules.rules ∧
    List.Forall₂ (Case.SameUpToReasons cascade.rules.rules) cascade.cases reversedCascade.cases ∧
    cascade.cases.head?.map (·.skips.map (·.rule)) = some ["port-needs-full", "interface-needs-port"] ∧
    reversedCascade.cases.head?.map (·.skips.map (·.rule))
      = some ["port-needs-full", "interface-needs-full"] := by
  have perm := List.reverse_perm cascade.rules.rules
  obtain ⟨u, built, same⟩ := rule_order_shows_in_reasons cascade _ perm
  obtain rfl := Except.ok.inj ((build_of_sound reversedCascade.sound).symm.trans built)
  exact ⟨perm, same, by decide, by decide⟩

end Table
end ServerTrials.Trial
