import Mathlib.Data.List.Forall2
import ServerTrials.Proofs.Trial.Leaves
import ServerTrials.Proofs.Trial.Reports

/-!
The order of the cases of a table.

On the way to a case something is decided about every field that is reached: one of the acceptable values, one
of the error values, no value, or a skip. `Leads` says which choices lead to which leaf, for each path on its
own. A walk with labels goes along all paths at once (`trails`): its leaves are those of the walk, its labels
are just the paths that lead somewhere, and of two labels the earlier one is first in the lexicographic order.
Paths differ in length and the trees below two choices differ in shape, so the order comes from the first
choice in which two paths differ, and from nothing below it.
-/

namespace ServerTrials.Trial

/-- What is decided about a field on the way to a case. -/
inductive Choice where
  /-- The acceptable value at that place. -/
  | acceptable (place : Nat)
  /-- The error value at that place. -/
  | error (place : Nat)
  /-- No value. -/
  | omitted
  /-- No value, because a rule skips the field. -/
  | skipped
  deriving DecidableEq, Repr

/-- The order of choices about one field: acceptable values in their order, error values in theirs, no value.
Where a field is skipped there is no other choice. -/
inductive Choice.Before : Choice → Choice → Prop where
  | acceptable {i j : Nat} (lt : i < j) : Before (.acceptable i) (.acceptable j)
  | acceptable_error (i j : Nat) : Before (.acceptable i) (.error j)
  | acceptable_omitted (i : Nat) : Before (.acceptable i) .omitted
  | error {i j : Nat} (lt : i < j) : Before (.error i) (.error j)
  | error_omitted (j : Nat) : Before (.error j) .omitted

theorem Choice.Before.irrefl (c : Choice) : ¬ c.Before c := by
  rintro (lt | _ | _ | lt | _)
  · exact Nat.lt_irrefl _ lt
  · exact Nat.lt_irrefl _ lt

/-- The choices lead to the leaf, from the options and notes made so far and through the fields to come. -/
inductive Leads (s : RuleSet) : List Field → OptionMap → List Skip → List Choice → Leaf → Prop where
  | done {o : OptionMap} {skips : List Skip} : Leads s [] o skips [] ⟨o, .accept, .valid, skips⟩
  | skipped {f : Field} {fs : List Field} {o : OptionMap} {skips : List Skip} {path : List Choice}
    {l : Leaf} {r : Rule} (rule : s.firstSkip? o f.key = some r)
    (later : Leads s fs o (skips ++ [⟨f.key, r.name, r.reason⟩]) path l) :
    Leads s (f :: fs) o skips (.skipped :: path) l
  | acceptable {f : Field} {fs : List Field} {o : OptionMap} {skips : List Skip} {path : List Choice}
    {l : Leaf} {i : Nat} {v : Json} (kept : ¬ s.Skips o f.key) (value : f.acceptable[i]? = some v)
    (later : Leads s fs (o.insert f.key v) skips path l) :
    Leads s (f :: fs) o skips (.acceptable i :: path) l
  | error {f : Field} {fs : List Field} {o : OptionMap} {skips : List Skip} {j : Nat} {v : Json}
    (kept : ¬ s.Skips o f.key) (value : f.errors[j]? = some v) :
    Leads s (f :: fs) o skips [.error j] ⟨o.insert f.key v, .reject, .errorValue f.key, skips⟩
  | omitted {f : Field} {fs : List Field} {o : OptionMap} {skips : List Skip} {path : List Choice}
    {l : Leaf} (kept : ¬ s.Skips o f.key) (optional : f.optional = true)
    (later : Leads s fs o skips path l) : Leads s (f :: fs) o skips (.omitted :: path) l
  | missing {f : Field} {fs : List Field} {o : OptionMap} {skips : List Skip}
    (kept : ¬ s.Skips o f.key) (required : f.optional = false) :
    Leads s (f :: fs) o skips [.omitted] ⟨o, .reject, .missingRequired f.key, skips⟩

/-! ### Trails -/

/-- A leaf with the choices that lead to it. -/
structure Trail where
  choices : List Choice
  leaf : Leaf
  deriving DecidableEq

namespace Trail

/-- The trail with a choice before all others. -/
def after (c : Choice) (t : Trail) : Trail := { t with choices := c :: t.choices }

/-- The choices of one trail are before those of the other in the lexicographic order. -/
def Before (t u : Trail) : Prop := List.Lex Choice.Before t.choices u.choices

theorem Before.ne {t u : Trail} (h : t.Before u) : t.choices ≠ u.choices := fun same => by
  rw [Before, same] at h
  exact List.lex_irrefl Choice.Before.irrefl _ h

/-- Trails that begin differently are ordered by that. -/
theorem before_of_head? {c d : Choice} (first : c.Before d) {t u : Trail}
    (ht : t.choices.head? = some c) (hu : u.choices.head? = some d) : t.Before u := by
  obtain ⟨cs, hcs⟩ := List.head?_eq_some_iff.1 ht
  obtain ⟨ds, hds⟩ := List.head?_eq_some_iff.1 hu
  rw [Before, hcs, hds]
  exact List.Lex.rel first

/-- Trails that begin with the same choice are ordered by what comes after it. -/
theorem pairwise_map_after (c : Choice) {ts : List Trail} (h : ts.Pairwise Before) :
    (ts.map (after c)).Pairwise Before :=
  List.pairwise_map.2 (h.imp fun earlier => List.Lex.cons earlier)

theorem head?_of_mem_map_after {c : Choice} {ts : List Trail} {t : Trail} (h : t ∈ ts.map (after c)) :
    t.choices.head? = some c := by
  obtain ⟨t', -, rfl⟩ := List.mem_map.1 h
  rfl

theorem map_leaf_map_after (c : Choice) (ts : List Trail) :
    (ts.map (after c)).map leaf = ts.map leaf := by
  rw [List.map_map]
  rfl

end Trail

/-! ### The walk with labels -/

/-- The trails that begin with an acceptable value of a field, given those below the options with it. -/
def acceptableTrails (below : OptionMap → List Trail) (f : Field) (o : OptionMap) : List Trail :=
  f.acceptable.zipIdx.flatMap fun v => (below (o.insert f.key v.1)).map (Trail.after (.acceptable v.2))

/-- The trails that end with an error value of a field. -/
def errorTrails (f : Field) (o : OptionMap) (skips : List Skip) : List Trail :=
  f.errors.zipIdx.map fun v => ⟨[.error v.2], ⟨o.insert f.key v.1, .reject, .errorValue f.key, skips⟩⟩

/-- The trails that begin by leaving a field out, given those below the options without it. -/
def omissionTrails (below : List Trail) (f : Field) (o : OptionMap) (skips : List Skip) : List Trail :=
  if f.optional then below.map (Trail.after .omitted)
  else [⟨[.omitted], ⟨o, .reject, .missingRequired f.key, skips⟩⟩]

/-- The trails below the options and notes made so far, for the fields still to be decided. -/
def trails (s : RuleSet) : List Field → OptionMap → List Skip → List Trail
  | [], o, skips => [⟨[], ⟨o, .accept, .valid, skips⟩⟩]
  | f :: fs, o, skips =>
    match s.firstSkip? o f.key with
    | some r => (trails s fs o (skips ++ [⟨f.key, r.name, r.reason⟩])).map (Trail.after .skipped)
    | none =>
      acceptableTrails (fun o => trails s fs o skips) f o ++ errorTrails f o skips
        ++ omissionTrails (trails s fs o skips) f o skips

variable {s : RuleSet} {f : Field} {fs : List Field} {o : OptionMap} {skips : List Skip} {t : Trail}
  {below : OptionMap → List Trail} {ts : List Trail}

theorem trails_cons_of_skips {r : Rule} (h : s.firstSkip? o f.key = some r) :
    trails s (f :: fs) o skips
      = (trails s fs o (skips ++ [⟨f.key, r.name, r.reason⟩])).map (Trail.after .skipped) := by
  rw [trails, h]

theorem trails_cons_of_not_skips (h : ¬ s.Skips o f.key) :
    trails s (f :: fs) o skips
      = acceptableTrails (fun o => trails s fs o skips) f o ++ errorTrails f o skips
        ++ omissionTrails (trails s fs o skips) f o skips := by
  rw [trails, RuleSet.firstSkip?_eq_none_iff.2 h]

/-! ### Its leaves -/

theorem map_leaf_acceptableTrails (below : OptionMap → List Trail) (f : Field) (o : OptionMap) :
    (acceptableTrails below f o).map Trail.leaf
      = f.acceptable.flatMap fun v => (below (o.insert f.key v)).map Trail.leaf := by
  conv_rhs => rw [← List.zipIdx_map_fst 0 f.acceptable, List.flatMap_map]
  rw [acceptableTrails, List.map_flatMap]
  simp only [Trail.map_leaf_map_after]

theorem map_leaf_errorTrails (f : Field) (o : OptionMap) (skips : List Skip) :
    (errorTrails f o skips).map Trail.leaf
      = f.errors.map fun v => ⟨o.insert f.key v, .reject, .errorValue f.key, skips⟩ := by
  conv_rhs => rw [← List.zipIdx_map_fst 0 f.errors, List.map_map]
  rw [errorTrails, List.map_map]
  rfl

theorem map_leaf_omissionTrails (ts : List Trail) (f : Field) (o : OptionMap) (skips : List Skip) :
    (omissionTrails ts f o skips).map Trail.leaf
      = if f.optional then ts.map Trail.leaf else [⟨o, .reject, .missingRequired f.key, skips⟩] := by
  rw [omissionTrails]
  split
  · exact Trail.map_leaf_map_after _ _
  · rfl

/-- Without its labels the walk is the plain one. -/
theorem map_leaf_trails (s : RuleSet) : ∀ (fs : List Field) (o : OptionMap) (skips : List Skip),
    (trails s fs o skips).map Trail.leaf = expand s fs o skips
  | [], _, _ => rfl
  | f :: fs, o, skips => by
    rw [trails, expand, s.skipping?_eq_firstSkip?]
    cases s.firstSkip? o f.key with
    | some r =>
      dsimp only
      rw [Trail.map_leaf_map_after, map_leaf_trails s fs]
    | none =>
      dsimp only
      rw [List.map_append, List.map_append, map_leaf_acceptableTrails, map_leaf_errorTrails,
        map_leaf_omissionTrails]
      simp only [map_leaf_trails s fs]

/-! ### Its labels -/

/-- A label leads to the leaf that it stands at. -/
theorem leads_of_mem_trails (h : t ∈ trails s fs o skips) : Leads s fs o skips t.choices t.leaf := by
  induction fs generalizing o skips t with
  | nil =>
    rw [List.mem_singleton.1 h]
    exact .done
  | cons f fs ih =>
    cases hr : s.firstSkip? o f.key with
    | some r =>
      rw [trails_cons_of_skips hr] at h
      obtain ⟨t', ht', rfl⟩ := List.mem_map.1 h
      exact .skipped hr (ih ht')
    | none =>
      have kept := RuleSet.firstSkip?_eq_none_iff.1 hr
      rw [trails_cons_of_not_skips kept, List.mem_append, List.mem_append] at h
      rcases h with (h | h) | h
      · obtain ⟨v, hv, ht⟩ := List.mem_flatMap.1 h
        obtain ⟨t', ht', rfl⟩ := List.mem_map.1 ht
        exact .acceptable kept (List.mk_mem_zipIdx_iff_getElem?.1 hv) (ih ht')
      · obtain ⟨v, hv, rfl⟩ := List.mem_map.1 h
        exact .error kept (List.mk_mem_zipIdx_iff_getElem?.1 hv)
      · rw [omissionTrails] at h
        split at h
        next optional =>
          obtain ⟨t', ht', rfl⟩ := List.mem_map.1 h
          exact .omitted kept optional (ih ht')
        next required =>
          rw [List.mem_singleton.1 h]
          exact .missing kept (Bool.eq_false_iff.2 required)

/-- A path that leads somewhere is among the labels. -/
theorem mem_trails_of_leads {path : List Choice} {l : Leaf} (h : Leads s fs o skips path l) :
    ⟨path, l⟩ ∈ trails s fs o skips := by
  induction h with
  | done => exact List.mem_singleton_self _
  | skipped rule later ih =>
    rw [trails_cons_of_skips rule]
    exact List.mem_map.2 ⟨_, ih, rfl⟩
  | @acceptable f fs o skips path l i v kept value later ih =>
    rw [trails_cons_of_not_skips kept]
    refine List.mem_append_left _ (List.mem_append_left _ (List.mem_flatMap.2 ⟨(v, i), ?_, ?_⟩))
    · exact List.mk_mem_zipIdx_iff_getElem?.2 value
    · exact List.mem_map.2 ⟨_, ih, rfl⟩
  | @error f fs o skips j v kept value =>
    rw [trails_cons_of_not_skips kept]
    refine List.mem_append_left _ (List.mem_append_right _ (List.mem_map.2 ⟨(v, j), ?_, rfl⟩))
    exact List.mk_mem_zipIdx_iff_getElem?.2 value
  | omitted kept optional later ih =>
    rw [trails_cons_of_not_skips kept, omissionTrails, if_pos optional]
    exact List.mem_append_right _ (List.mem_map.2 ⟨_, ih, rfl⟩)
  | missing kept required =>
    rw [trails_cons_of_not_skips kept, omissionTrails, if_neg (Bool.eq_false_iff.1 required)]
    exact List.mem_append_right _ (List.mem_singleton_self _)

/-! ### Their order -/

theorem head?_of_mem_acceptableTrails (h : t ∈ acceptableTrails below f o) :
    ∃ i, t.choices.head? = some (.acceptable i) := by
  obtain ⟨v, -, ht⟩ := List.mem_flatMap.1 h
  exact ⟨v.2, Trail.head?_of_mem_map_after ht⟩

theorem head?_of_mem_errorTrails (h : t ∈ errorTrails f o skips) :
    ∃ j, t.choices.head? = some (.error j) := by
  obtain ⟨v, -, rfl⟩ := List.mem_map.1 h
  exact ⟨v.2, rfl⟩

theorem head?_of_mem_omissionTrails (h : t ∈ omissionTrails ts f o skips) :
    t.choices.head? = some .omitted := by
  rw [omissionTrails] at h
  split at h
  · exact Trail.head?_of_mem_map_after h
  · rw [List.mem_singleton.1 h]
    rfl

theorem pairwise_acceptableTrails (h : ∀ o, (below o).Pairwise Trail.Before) :
    (acceptableTrails below f o).Pairwise Trail.Before := by
  refine List.pairwise_flatMap.2 ⟨fun v _ => Trail.pairwise_map_after _ (h _), ?_⟩
  refine (pairwise_zipIdx f.acceptable).imp fun lt t ht u hu => ?_
  exact Trail.before_of_head? (.acceptable lt) (Trail.head?_of_mem_map_after ht)
    (Trail.head?_of_mem_map_after hu)

theorem pairwise_errorTrails (f : Field) (o : OptionMap) (skips : List Skip) :
    (errorTrails f o skips).Pairwise Trail.Before :=
  List.pairwise_map.2 ((pairwise_zipIdx f.errors).imp fun lt => List.Lex.rel (.error lt))

theorem pairwise_omissionTrails (h : ts.Pairwise Trail.Before) :
    (omissionTrails ts f o skips).Pairwise Trail.Before := by
  rw [omissionTrails]
  split
  · exact Trail.pairwise_map_after _ h
  · exact List.pairwise_singleton _ _

/-- Of two labels the one further to the front is first in the lexicographic order. -/
theorem pairwise_trails (s : RuleSet) (fs : List Field) (o : OptionMap) (skips : List Skip) :
    (trails s fs o skips).Pairwise Trail.Before := by
  induction fs generalizing o skips with
  | nil => exact List.pairwise_singleton _ _
  | cons f fs ih =>
    cases hr : s.firstSkip? o f.key with
    | some r =>
      rw [trails_cons_of_skips hr]
      exact Trail.pairwise_map_after _ (ih o _)
    | none =>
      rw [trails_cons_of_not_skips (RuleSet.firstSkip?_eq_none_iff.1 hr), List.pairwise_append,
        List.pairwise_append]
      refine ⟨⟨pairwise_acceptableTrails fun o => ih o skips, pairwise_errorTrails f o skips, ?_⟩,
        pairwise_omissionTrails (ih o skips), ?_⟩
      · intro t ht u hu
        obtain ⟨i, hi⟩ := head?_of_mem_acceptableTrails ht
        obtain ⟨j, hj⟩ := head?_of_mem_errorTrails hu
        exact Trail.before_of_head? (.acceptable_error i j) hi hj
      · intro t ht u hu
        have omitted := head?_of_mem_omissionTrails hu
        rcases List.mem_append.1 ht with ht | ht
        · obtain ⟨i, hi⟩ := head?_of_mem_acceptableTrails ht
          exact Trail.before_of_head? (.acceptable_omitted i) hi omitted
        · obtain ⟨j, hj⟩ := head?_of_mem_errorTrails ht
          exact Trail.before_of_head? (.error_omitted j) hj omitted

/-! ### The cases of a table -/

namespace Table

/-- The choices lead through the fields of the table to the leaf. -/
def LeadsTo (t : Table) (path : List Choice) (l : Leaf) : Prop :=
  Leads t.rules t.fields .empty [] path l

/-- The trails to the leaves of a table. -/
def trails (t : Table) : List Trail := Trial.trails t.rules t.fields .empty []

theorem map_leaf_trails (t : Table) : t.trails.map Trail.leaf = t.leaves :=
  Trial.map_leaf_trails t.rules t.fields .empty []

theorem mem_map_choices_trails_iff (t : Table) (path : List Choice) :
    path ∈ t.trails.map Trail.choices ↔ ∃ l, t.LeadsTo path l := by
  constructor
  · intro h
    obtain ⟨trail, ht, rfl⟩ := List.mem_map.1 h
    exact ⟨trail.leaf, leads_of_mem_trails ht⟩
  · rintro ⟨l, leads⟩
    exact List.mem_map.2 ⟨⟨path, l⟩, mem_trails_of_leads leads, rfl⟩

/-- The labels lead to the cases, each to the one at its place. -/
theorem forall₂_leadsTo (t : Table) :
    List.Forall₂ (fun path c => t.LeadsTo path c.toLeaf) (t.trails.map Trail.choices) t.cases := by
  have leaves : List.Forall₂ t.LeadsTo (t.trails.map Trail.choices) (t.trails.map Trail.leaf) := by
    rw [List.forall₂_map_left_iff, List.forall₂_map_right_iff, List.forall₂_same]
    exact fun trail ht => leads_of_mem_trails ht
  rw [map_leaf_trails, ← t.map_toLeaf_cases, List.forall₂_map_right_iff] at leaves
  exact leaves

/-- The cases of a table come in the order of the choices that lead to them: their labels rise strictly in the
lexicographic order, so none comes twice, and are all paths that lead to a leaf. A visitor gets each case once
and in this order, numbered from zero, is told how many there were, and the listed cases are the same. -/
theorem visited_in_order (t : Table) : ∃ labels : List (List Choice),
    labels.Pairwise (List.Lex Choice.Before) ∧ labels.Nodup ∧
    (∀ path, path ∈ labels ↔ ∃ l, t.LeadsTo path l) ∧
    List.Forall₂ (fun path c => t.LeadsTo path c.toLeaf) labels t.visited ∧
    t.visited.map (·.ordinal) = List.range labels.length ∧
    (∀ (α : Type) (visit : α → Case → α) (init : α),
      t.generate visit init = (labels.length, t.visited.foldl visit init)) ∧
    t.cases = t.visited := by
  have rising := pairwise_trails t.rules t.fields .empty []
  have length : (t.trails.map Trail.choices).length = t.leaves.length := by
    rw [← t.map_leaf_trails, List.length_map, List.length_map]
  refine ⟨t.trails.map Trail.choices, List.pairwise_map.2 rising,
    List.pairwise_map.2 (rising.imp Trail.Before.ne), t.mem_map_choices_trails_iff, ?_, ?_, ?_,
    t.visited_eq.symm⟩
  · rw [visited_eq]
    exact t.forall₂_leadsTo
  · rw [visited_eq, map_ordinal_cases, length]
  · intro α visit init
    rw [generate_eq, visited_eq, length, cases, List.length_mapIdx]

-- In the cascade only the tree below full mode branches, twice in the same way for the port that is listed
-- twice.
example : cascade.trails.map Trail.choices =
    [[.acceptable 0, .skipped, .skipped],
      [.acceptable 1, .acceptable 0, .acceptable 0], [.acceptable 1, .acceptable 0, .error 0],
      [.acceptable 1, .acceptable 0, .omitted],
      [.acceptable 1, .acceptable 1, .acceptable 0], [.acceptable 1, .acceptable 1, .error 0],
      [.acceptable 1, .acceptable 1, .omitted],
      [.acceptable 1, .error 0], [.acceptable 1, .omitted], [.error 0],
      [.omitted, .skipped, .skipped]] := by decide

end Table
end ServerTrials.Trial
