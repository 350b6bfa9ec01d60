import ServerTrials.Trial.Case

/-!
Visiting the cases of a table as they come.

The walk that hands every leaf to a visitor comes to the leaves in the order in which they are listed, and
numbers them from zero. So a visitor makes of a table what a fold makes of its list of cases.
-/

namespace ServerTrials.Trial

/-- A walk goes past the leaves in their order. -/
theorem walk_eq_foldl {α : Type} (visit : α → Case → α) (rules : RuleSet) :
    ∀ (fs : List Field) (o : OptionMap) (skips : List Skip) (acc : Nat × α),
      walk visit rules fs o skips acc = (expand rules fs o skips).foldl (emit visit) acc
  | [], o, skips, acc => rfl
  | f :: fs, o, skips, acc => by
    rw [walk, expand]
    cases rules.skipping? o f.key with
    | some r => exact walk_eq_foldl visit rules fs _ _ acc
    | none =>
      simp only [List.foldl_append, List.foldl_flatMap, List.foldl_map, walk_eq_foldl visit rules fs]
      split <;> rfl

theorem foldl_emit {α : Type} (visit : α → Case → α) : ∀ (ls : List Leaf) (n : Nat) (a : α),
    ls.foldl (emit visit) (n, a)
      = (n + ls.length, (ls.mapIdx fun i l => ({ l with ordinal := n + i } : Case)).foldl visit a)
  | [], n, a => rfl
  | l :: ls, n, a => by
    rw [List.foldl_cons, emit, foldl_emit visit ls, List.mapIdx_cons, List.foldl_cons, List.length_cons]
    simp only [Nat.add_assoc, Nat.add_comm 1, Nat.add_zero]

namespace Table

/-- Cases that are visited as they come are the listed ones. -/
theorem generate_eq {α : Type} (t : Table) (visit : α → Case → α) (init : α) :
    t.generate visit init = (t.cases.length, t.cases.foldl visit init) := by
  rw [generate, walk_eq_foldl, foldl_emit, cases, List.length_mapIdx, leaves]
  simp only [Nat.zero_add]

/-- The cases as a visitor gets them. -/
def visited (t : Table) : List Case := (t.generate (fun seen c => seen ++ [c]) []).2

theorem visited_eq (t : Table) : t.visited = t.cases := by
  rw [visited, generate_eq, List.foldl_append_eq_append, List.nil_append, ← List.flatMap_def,
    List.flatMap_singleton']

theorem map_ordinal_cases (t : Table) : t.cases.map (·.ordinal) = List.range t.leaves.length := by
  rw [cases, List.mapIdx_eq_zipIdx_map, List.map_map, List.range_eq_range']
  exact List.zipIdx_map_snd 0 t.leaves

theorem pairwise_ordinal (t : Table) : t.cases.Pairwise fun c d => c.ordinal < d.ordinal := by
  rw [← List.pairwise_map, map_ordinal_cases]
  exact List.pairwise_lt_range

end Table
end ServerTrials.Trial
