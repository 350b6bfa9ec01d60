import Mathlib.Algebra.BigOperators.Group.List.Basic
import ServerTrials.Proofs.Trial.Tables
import ServerTrials.Trial.Case

/-!
What can be chosen for each field so that given options come out, judged on these options as a whole.

A field is settled if it is decided the way accepted cases decide it. `multiplicity` counts the ways to
reach the options with a case of a given kind: a product over the settled fields, up to the field at which
the case ends. No rule is asked on anything but the options themselves.
-/

namespace ServerTrials.Trial

/-- The key that a case ends at; none if it goes past the last field. -/
def CaseKind.key? : CaseKind → Option String
  | .valid => none
  | .errorValue key => some key
  | .missingRequired key => some key

/-- What is expected of a case of this kind. -/
def CaseKind.expectation : CaseKind → Expectation
  | .valid => .accept
  | .errorValue _ => .reject
  | .missingRequired _ => .reject

theorem CaseKind.expectation_of_key? {kind : CaseKind} {key : String} (h : kind.key? = some key) :
    kind.expectation = .reject := by
  cases kind with
  | valid => exact absurd h (by simp [CaseKind.key?])
  | errorValue _ => rfl
  | missingRequired _ => rfl

/-- How often a list holds a value that may be absent. -/
def occurrencesIn (values : List Json) : Option Json → Nat
  | none => 0
  | some v => values.count v

theorem count_eq_zero_of_contains_eq_false {values : List Json} {v : Json}
    (h : values.contains v = false) : values.count v = 0 := by
  rw [List.count, List.countP_eq_zero]
  intro w hw hwv
  rw [List.contains_eq_any_beq, List.any_eq_false] at h
  exact h w hw (BEq.symm hwv)

theorem count_pos_of_contains {values : List Json} {v : Json} (h : values.contains v = true) :
    0 < values.count v := by
  obtain ⟨w, hw, hvw⟩ := List.contains_iff_exists_mem_beq.1 h
  exact List.countP_pos_iff.2 ⟨w, hw, BEq.symm hvw⟩

theorem occurrencesIn_pos_iff {values : List Json} {v? : Option Json} :
    0 < occurrencesIn values v? ↔ ∃ v ∈ v?, values.contains v = true := by
  cases v? with
  | none => simp [occurrencesIn]
  | some v =>
    cases h : values.contains v with
    | true => simp [occurrencesIn, count_pos_of_contains h, h]
    | false => simp [occurrencesIn, count_eq_zero_of_contains_eq_false h, h]

namespace Field

/-- How often the field's acceptable values hold the value that the options give it; once if they leave
it out. -/
def occurrences (f : Field) (o : OptionMap) : Nat :=
  match o.get? f.key with
  | none => 1
  | some v => f.acceptable.count v

/-- The options give the field one of its error values. -/
def HoldsError (f : Field) (o : OptionMap) : Prop :=
  ∃ v ∈ o.get? f.key, f.errors.contains v = true

/-- The options leave the field out though it is required. -/
def LacksRequired (f : Field) (o : OptionMap) : Prop :=
  f.optional = false ∧ o.get? f.key = none

instance (f : Field) (o : OptionMap) : Decidable (f.HoldsError o) :=
  inferInstanceAs (Decidable (∃ v ∈ o.get? f.key, _))

instance (f : Field) (o : OptionMap) : Decidable (f.LacksRequired o) :=
  inferInstanceAs (Decidable (_ ∧ _))

end Field

/-- The options leave all these fields out. -/
def Unset (o : OptionMap) (fs : List Field) : Prop := ∀ g ∈ fs, o.get? g.key = none

instance (o : OptionMap) (fs : List Field) : Decidable (Unset o fs) :=
  inferInstanceAs (Decidable (∀ g ∈ fs, _))

namespace RuleSet

/-- If a rule skips the field it is left out; otherwise it has an acceptable value, or is left out and
optional. -/
def Settled (s : RuleSet) (o : OptionMap) (f : Field) : Prop :=
  if s.Skips o f.key then o.get? f.key = none
  else (∃ v ∈ o.get? f.key, f.acceptable.contains v = true) ∨
    (o.get? f.key = none ∧ f.optional = true)

instance (s : RuleSet) (o : OptionMap) (f : Field) : Decidable (s.Settled o f) :=
  inferInstanceAs (Decidable (if s.Skips o f.key then _ else _))

/-- The note that the rules leave for a field: its first rule that skips it, if there is one. -/
def note? (s : RuleSet) (o : OptionMap) (f : Field) : Option Skip :=
  (s.firstSkip? o f.key).map fun r => ⟨f.key, r.name, r.reason⟩

/-- In how many ways a case goes past the field with these options. -/
def ways (s : RuleSet) (o : OptionMap) (f : Field) : Nat := if s.Settled o f then f.occurrences o else 0

/-- In how many ways a case of this kind ends at the field with these options. -/
def endings (s : RuleSet) (kind : CaseKind) (o : OptionMap) (f : Field) : Nat :=
  if s.Skips o f.key then 0
  else if kind = .errorValue f.key then occurrencesIn f.errors (o.get? f.key)
  else if kind = .missingRequired f.key ∧ f.LacksRequired o then 1 else 0

/-- In how many ways the fields lead to a case of this kind with these options. -/
def multiplicity (s : RuleSet) (kind : CaseKind) (o : OptionMap) : List Field → Nat
  | [] => if kind = .valid then 1 else 0
  | f :: fs => s.ways o f * multiplicity s kind o fs + if Unset o fs then s.endings kind o f else 0

variable {s : RuleSet} {kind : CaseKind} {o : OptionMap} {f : Field} {fs : List Field}

/-! ### One field -/

theorem settled_of_skips (h : s.Skips o f.key) : s.Settled o f ↔ o.get? f.key = none := by
  rw [Settled, if_pos h]

theorem settled_of_not_skips (h : ¬ s.Skips o f.key) : s.Settled o f ↔
    (∃ v ∈ o.get? f.key, f.acceptable.contains v = true) ∨
      (o.get? f.key = none ∧ f.optional = true) := by
  rw [Settled, if_neg h]

theorem ways_of_skips (h : s.Skips o f.key) :
    s.ways o f = if o.get? f.key = none then 1 else 0 := by
  simp only [ways, settled_of_skips h, Field.occurrences]
  cases o.get? f.key <;> simp

theorem ways_of_not_skips (h : ¬ s.Skips o f.key) :
    s.ways o f = occurrencesIn f.acceptable (o.get? f.key)
      + if o.get? f.key = none ∧ f.optional = true then 1 else 0 := by
  simp only [ways, settled_of_not_skips h, Field.occurrences]
  cases o.get? f.key with
  | none => simp [occurrencesIn]
  | some v =>
    cases hv : f.acceptable.contains v with
    | true => simp [occurrencesIn, hv]
    | false => simp [occurrencesIn, hv, count_eq_zero_of_contains_eq_false hv]

theorem ways_pos_iff : 0 < s.ways o f ↔ s.Settled o f := by
  by_cases h : s.Skips o f.key
  · rw [ways_of_skips h, settled_of_skips h]
    by_cases hget : o.get? f.key = none <;> simp [hget]
  · rw [ways_of_not_skips h, Nat.add_pos_iff_pos_or_pos, occurrencesIn_pos_iff, settled_of_not_skips h]
    by_cases hopt : o.get? f.key = none ∧ f.optional = true <;> simp [hopt]

theorem prod_ways_eq : ∀ fs : List Field, (fs.map (s.ways o)).prod
    = if ∀ f ∈ fs, s.Settled o f then (fs.map (·.occurrences o)).prod else 0
  | [] => by simp
  | f :: fs => by
    rw [List.map_cons, List.prod_cons, prod_ways_eq fs, ways]
    by_cases hf : s.Settled o f <;> by_cases hfs : ∀ g ∈ fs, s.Settled o g <;> simp [hf, hfs]

/-- A value that a settled field has is an acceptable one, and no rule skips the field. -/
theorem Settled.of_present {v : Json} (h : s.Settled o f) (present : o.get? f.key = some v) :
    f.acceptable.contains v = true ∧ ¬ s.Skips o f.key := by
  have kept : ¬ s.Skips o f.key := fun skips => by
    rw [settled_of_skips skips, present] at h
    contradiction
  refine ⟨?_, kept⟩
  rw [settled_of_not_skips kept, present] at h
  obtain ⟨w, hw, listed⟩ | ⟨absent, -⟩ := h
  · rwa [Option.some.inj hw]
  · contradiction

/-- A settled field does not have an error value. -/
theorem Settled.not_holdsError (h : s.Settled o f) (sep : f.Separated) : ¬ f.HoldsError o := by
  rintro ⟨v, hv, herr⟩
  have absent : f.acceptable.contains v = false := sep.acceptable_eq_false herr
  rw [Option.mem_def] at hv
  rw [Settled, hv] at h
  by_cases hs : s.Skips o f.key
  · simp [hs] at h
  · simp [hs, absent] at h

/-- A settled field does not lack what it requires, unless a rule skips it. -/
theorem Settled.not_lacksRequired (h : s.Settled o f) (hs : ¬ s.Skips o f.key) :
    ¬ f.LacksRequired o := by
  rintro ⟨hreq, hget⟩
  rw [settled_of_not_skips hs, hget] at h
  simp [hreq] at h

theorem endings_pos_iff : 0 < s.endings kind o f ↔ ¬ s.Skips o f.key ∧
    (kind = .errorValue f.key ∧ f.HoldsError o ∨ kind = .missingRequired f.key ∧ f.LacksRequired o) := by
  rw [endings]
  by_cases hs : s.Skips o f.key
  · simp [hs]
  · by_cases he : kind = .errorValue f.key
    · rw [if_neg hs, if_pos he, occurrencesIn_pos_iff, Field.HoldsError]
      simp [hs, he]
    · by_cases hm : kind = .missingRequired f.key ∧ f.LacksRequired o <;> simp [hs, he, hm]

theorem key?_of_endings_pos (h : 0 < s.endings kind o f) : kind.key? = some f.key := by
  obtain ⟨-, ⟨rfl, -⟩ | ⟨rfl, -⟩⟩ := endings_pos_iff.1 h <;> rfl

theorem endings_eq_zero_of_key?_ne (h : kind.key? ≠ some f.key) : s.endings kind o f = 0 :=
  Nat.eq_zero_of_not_pos fun pos => h (key?_of_endings_pos pos)

/-- No case ends at a settled field. -/
theorem Settled.endings_eq_zero (h : s.Settled o f) (sep : f.Separated) :
    s.endings kind o f = 0 := by
  refine Nat.eq_zero_of_not_pos fun pos => ?_
  obtain ⟨hs, ⟨-, herr⟩ | ⟨-, hlack⟩⟩ := endings_pos_iff.1 pos
  · exact h.not_holdsError sep herr
  · exact h.not_lacksRequired hs hlack

/-- The options tell how a case ends at a field. -/
theorem kind_unique_of_endings_pos {kind' : CaseKind} (h : 0 < s.endings kind o f)
    (h' : 0 < s.endings kind' o f) : kind = kind' := by
  have apart : f.HoldsError o → f.LacksRequired o → False := by
    rintro ⟨v, hv, -⟩ ⟨-, hget⟩
    rw [hget] at hv
    exact absurd hv (by simp)
  obtain ⟨-, ⟨rfl, herr⟩ | ⟨rfl, hlack⟩⟩ := endings_pos_iff.1 h <;>
    obtain ⟨-, ⟨rfl, herr'⟩ | ⟨rfl, hlack'⟩⟩ := endings_pos_iff.1 h'
  · rfl
  · exact (apart herr hlack').elim
  · exact (apart herr' hlack).elim
  · rfl

/-! ### All fields -/

theorem multiplicity_cons_pos (h : 0 < s.multiplicity kind o (f :: fs)) :
    s.Settled o f ∧ 0 < s.multiplicity kind o fs ∨ Unset o fs ∧ 0 < s.endings kind o f := by
  rw [multiplicity, Nat.add_pos_iff_pos_or_pos] at h
  rcases h with h | h
  · exact Or.inl ⟨ways_pos_iff.1 (Nat.pos_of_mul_pos_right h), Nat.pos_of_mul_pos_left h⟩
  · by_cases hu : Unset o fs
    · rw [if_pos hu] at h
      exact Or.inr ⟨hu, h⟩
    · simp [hu] at h

/-- A case either goes past all fields, each of them settled, or ends at one of them, with the fields
before it settled and the fields after it left out. -/
theorem multiplicity_pos : ∀ {fs : List Field}, 0 < s.multiplicity kind o fs →
    (kind = .valid ∧ ∀ f ∈ fs, s.Settled o f) ∨
      ∃ before f after, fs = before ++ f :: after ∧ (∀ g ∈ before, s.Settled o g) ∧
        Unset o after ∧ 0 < s.endings kind o f
  | [], h => by
    rw [multiplicity] at h
    exact Or.inl ⟨by by_contra hk; simp [hk] at h, by simp⟩
  | f :: fs, h => by
    rcases multiplicity_cons_pos h with ⟨hf, hfs⟩ | ⟨hu, he⟩
    · rcases multiplicity_pos hfs with ⟨hk, hall⟩ | ⟨before, g, after, rfl, hbefore, hu, he⟩
      · exact Or.inl ⟨hk, List.forall_mem_cons.2 ⟨hf, hall⟩⟩
      · exact Or.inr ⟨f :: before, g, after, rfl, List.forall_mem_cons.2 ⟨hf, hbefore⟩, hu, he⟩
    · exact Or.inr ⟨[], f, fs, rfl, by simp, hu, he⟩

/-- The options tell the kind of the case. -/
theorem kind_unique {kind' : CaseKind} (wf : WellOrdered s fs) (h : 0 < s.multiplicity kind o fs)
    (h' : 0 < s.multiplicity kind' o fs) : kind = kind' := by
  induction wf with
  | nil =>
    rw [multiplicity] at h h'
    split at h <;> split at h' <;> simp_all
  | cons fresh separated back rest ih =>
    rcases multiplicity_cons_pos h with ⟨hf, hfs⟩ | ⟨-, he⟩ <;>
      rcases multiplicity_cons_pos h' with ⟨hf', hfs'⟩ | ⟨-, he'⟩
    · exact ih hfs hfs'
    · rw [hf.endings_eq_zero separated] at he'
      exact absurd he' (Nat.lt_irrefl 0)
    · rw [hf'.endings_eq_zero separated] at he
      exact absurd he (Nat.lt_irrefl 0)
    · exact kind_unique_of_endings_pos he he'

theorem multiplicity_cons_of_skips (h : s.Skips o f.key) :
    s.multiplicity kind o (f :: fs)
      = if o.get? f.key = none then s.multiplicity kind o fs else 0 := by
  rw [multiplicity, ways_of_skips h, endings, if_pos h, ite_self, Nat.add_zero]
  by_cases hget : o.get? f.key = none <;> simp [hget]

/-- The three branches at a field that no rule skips. -/
theorem multiplicity_cons_of_not_skips (h : ¬ s.Skips o f.key) :
    s.multiplicity kind o (f :: fs)
      = occurrencesIn f.acceptable (o.get? f.key) * s.multiplicity kind o fs
        + (if Unset o fs ∧ kind = .errorValue f.key then occurrencesIn f.errors (o.get? f.key) else 0)
        + if o.get? f.key = none then
            if f.optional = true then s.multiplicity kind o fs
            else if Unset o fs ∧ kind = .missingRequired f.key then 1 else 0
          else 0 := by
  rw [multiplicity, ways_of_not_skips h, endings, if_neg h]
  by_cases hu : Unset o fs <;> by_cases he : kind = .errorValue f.key <;>
    by_cases hget : o.get? f.key = none <;> by_cases hopt : f.optional = true <;>
    simp [hu, he, hget, hopt, Field.LacksRequired, occurrencesIn]

/-- Up to the field at which a case ends, its ways multiply. -/
theorem multiplicity_append : ∀ {before : List Field} (rest : List Field),
    (∀ g ∈ before, kind.key? ≠ some g.key) →
    s.multiplicity kind o (before ++ rest) = (before.map (s.ways o)).prod * s.multiplicity kind o rest
  | [], rest, _ => by simp
  | f :: before, rest, h => by
    obtain ⟨hf, hbefore⟩ := List.forall_mem_cons.1 h
    rw [List.cons_append, multiplicity, multiplicity_append rest hbefore,
      endings_eq_zero_of_key?_ne hf, ite_self, Nat.add_zero, List.map_cons, List.prod_cons,
      Nat.mul_assoc]

/-- Cases that end nowhere are counted by the ways of all fields. -/
theorem multiplicity_valid (s : RuleSet) (o : OptionMap) (fs : List Field) :
    s.multiplicity .valid o fs = (fs.map (s.ways o)).prod := by
  have past : ∀ g ∈ fs, CaseKind.valid.key? ≠ some g.key := fun g _ => by simp [CaseKind.key?]
  have h := multiplicity_append (s := s) (o := o) [] past
  rw [List.append_nil] at h
  rw [h, multiplicity, if_pos rfl, Nat.mul_one]

/-- No case ends at a field that is not there. -/
theorem multiplicity_eq_zero {key : String} (hk : kind.key? = some key)
    (absent : key ∉ fs.map (·.key)) : s.multiplicity kind o fs = 0 := by
  refine Nat.eq_zero_of_not_pos fun pos => ?_
  rcases multiplicity_pos pos with ⟨rfl, -⟩ | ⟨before, f, after, rfl, -, -, he⟩
  · simp [CaseKind.key?] at hk
  · have same := Option.some.inj (hk.symm.trans (key?_of_endings_pos he))
    exact absent (by simp [same])

/-- The ways of the fields before it and the endings at the field make up the cases that end there. -/
theorem multiplicity_ending {before after : List Field}
    (nodup : ((before ++ f :: after).map (·.key)).Nodup) (hk : kind.key? = some f.key) :
    s.multiplicity kind o (before ++ f :: after)
      = (before.map (s.ways o)).prod * if Unset o after then s.endings kind o f else 0 := by
  rw [List.map_append, List.map_cons, List.nodup_append] at nodup
  obtain ⟨-, hafter, hbefore⟩ := nodup
  have other : ∀ g ∈ before, kind.key? ≠ some g.key := fun g hg e =>
    hbefore g.key (List.mem_map_of_mem hg) f.key List.mem_cons_self
      (Option.some.inj (e.symm.trans hk))
  rw [multiplicity_append _ other, multiplicity,
    multiplicity_eq_zero hk (List.nodup_cons.1 hafter).1, Nat.mul_zero, Nat.zero_add]

end RuleSet
end ServerTrials.Trial
