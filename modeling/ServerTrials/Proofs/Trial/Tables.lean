import Mathlib.Data.List.Nodup
import ServerTrials.Proofs.Trial.Rules
import ServerTrials.Trial.Table

/-!
What an accepted table promises to whoever walks its fields.

The checks go through fields and rules with the keys and names seen so far; without a violation no key
and no rule name comes twice, no value of a field is in two roles, and each rule reads a field that stands
before the ones it skips. `WellOrdered` is the form in which a walk uses this: it holds of every rest of
the fields, so a walk has it again after each step.
-/

namespace ServerTrials.Trial

/-- No error value of a field is acceptable. -/
def Field.Separated (f : Field) : Prop := ∀ v ∈ f.errors, f.acceptable.contains v = false

/-- The rule reads one of the keys, and that one stands before all it skips. -/
def Rule.LooksBack (r : Rule) (keys : List String) : Prop :=
  ∃ trigger, keys.idxOf? r.condition.key = some trigger ∧
    ∀ target ∈ r.targets, ∃ place, keys.idxOf? target = some place ∧ trigger < place

/-- No two of the names are one, and none was seen before. -/
def Distinct {α : Type} (name : α → String) (seen : List String) (xs : List α) : Prop :=
  (∀ x ∈ xs, name x ∉ seen) ∧ (xs.map name).Nodup

theorem distinct_nil {α : Type} (name : α → String) (seen : List String) : Distinct name seen [] :=
  ⟨by simp, List.nodup_nil⟩

/-- A name that is passed counts as seen. -/
theorem distinct_cons_iff {α : Type} {name : α → String} {seen : List String} {x : α} {xs : List α} :
    Distinct name seen (x :: xs) ↔ name x ∉ seen ∧ Distinct name (name x :: seen) xs := by
  rw [Distinct, Distinct, List.map_cons, List.nodup_cons, List.mem_map, List.forall_mem_cons]
  constructor
  · rintro ⟨⟨hx, hseen⟩, hfresh, hnodup⟩
    refine ⟨hx, fun y hy hmem => ?_, hnodup⟩
    rcases List.mem_cons.1 hmem with h | h
    · exact hfresh ⟨y, hy, h⟩
    · exact hseen y hy h
  · rintro ⟨hx, hseen, hnodup⟩
    refine ⟨⟨hx, fun y hy hmem => hseen y hy (List.mem_cons_of_mem _ hmem)⟩, ?_, hnodup⟩
    rintro ⟨y, hy, hyx⟩
    exact hseen y hy (by rw [hyx]; exact List.mem_cons_self)

theorem Field.Separated.acceptable_eq_false {f : Field} (h : f.Separated) {v : Json}
    (herr : f.errors.contains v = true) : f.acceptable.contains v = false := by
  obtain ⟨w, hw, hvw⟩ := List.contains_iff_exists_mem_beq.1 herr
  rw [List.contains_congr hvw, h w hw]

namespace Table

/-! ### No violation -/

theorem fieldViolation?_eq_none_iff {seen : List String} {f : Field} :
    fieldViolation? seen f = none ↔ f.key ∉ seen ∧ f.Separated := by
  unfold fieldViolation?
  by_cases h : f.key ∈ seen
  · simp [h]
  · simp [h, Field.Separated]

theorem fieldsViolation?_cons (seen : List String) (f : Field) (fs : List Field) :
    fieldsViolation? seen (f :: fs) = (fieldViolation? seen f).or (fieldsViolation? (f.key :: seen) fs) := by
  rw [fieldsViolation?]
  cases fieldViolation? seen f <;> rfl

theorem fieldsViolation?_eq_none_iff : ∀ {fs : List Field} {seen : List String},
    fieldsViolation? seen fs = none ↔ Distinct (·.key) seen fs ∧ ∀ f ∈ fs, f.Separated
  | [], seen => by simp [fieldsViolation?, distinct_nil]
  | f :: fs, seen => by
    rw [fieldsViolation?_cons, Option.or_eq_none_iff, fieldViolation?_eq_none_iff,
      fieldsViolation?_eq_none_iff, distinct_cons_iff, List.forall_mem_cons, and_and_and_comm]

theorem targetViolation?_eq_none_iff {keys : List String} {r : Rule} {trigger : Nat}
    {target : String} :
    targetViolation? keys r trigger target = none ↔
      ∃ place, keys.idxOf? target = some place ∧ trigger < place := by
  unfold targetViolation?
  cases keys.idxOf? target <;> simp

theorem ruleViolation?_eq_none_iff {keys seen : List String} {r : Rule} :
    ruleViolation? keys seen r = none ↔ r.name ∉ seen ∧ r.LooksBack keys := by
  unfold ruleViolation? Rule.LooksBack
  by_cases h : r.name ∈ seen
  · simp [h]
  · cases keys.idxOf? r.condition.key with
    | none => simp [h]
    | some trigger =>
      simp only [h, if_false, List.findSome?_eq_none_iff, targetViolation?_eq_none_iff]
      simp

theorem rulesViolation?_cons {keys : List String} (seen : List String) (r : Rule) (rs : List Rule) :
    rulesViolation? keys seen (r :: rs)
      = (ruleViolation? keys seen r).or (rulesViolation? keys (r.name :: seen) rs) := by
  rw [rulesViolation?]
  cases ruleViolation? keys seen r <;> rfl

theorem rulesViolation?_eq_none_iff {keys : List String} : ∀ {rs : List Rule} {seen : List String},
    rulesViolation? keys seen rs = none ↔
      Distinct (·.name) seen rs ∧ ∀ r ∈ rs, r.LooksBack keys
  | [], seen => by simp [rulesViolation?, distinct_nil]
  | r :: rs, seen => by
    rw [rulesViolation?_cons, Option.or_eq_none_iff, ruleViolation?_eq_none_iff,
      rulesViolation?_eq_none_iff, distinct_cons_iff, List.forall_mem_cons, and_and_and_comm]

theorem violation?_eq_none_iff {fields : List Field} {rules : List Rule} :
    violation? fields rules = none ↔
      (Distinct (·.key) [] fields ∧ ∀ f ∈ fields, f.Separated) ∧
        Distinct (·.name) [] rules ∧ ∀ r ∈ rules, r.LooksBack (fields.map (·.key)) := by
  rw [← fieldsViolation?_eq_none_iff, ← rulesViolation?_eq_none_iff]
  unfold violation?
  cases fieldsViolation? [] fields <;> simp

theorem build_of_sound {fields : List Field} {rules : List Rule} (h : violation? fields rules = none) :
    build fields rules = .ok ⟨fields, .ofList rules, h⟩ := by
  unfold build
  split
  next e he =>
    rw [h] at he
    contradiction
  next => rfl

variable (t : Table)

theorem keys_nodup : t.keys.Nodup := (violation?_eq_none_iff.1 t.sound).1.1.2

theorem separated : ∀ f ∈ t.fields, f.Separated := (violation?_eq_none_iff.1 t.sound).1.2

theorem looksBack : ∀ r ∈ t.rules.rules, r.LooksBack t.keys := (violation?_eq_none_iff.1 t.sound).2.2

end Table

/-! ### Walking the fields -/

/-- A rule for a key reads a key that stands before it, so none from there on. -/
theorem Rule.LooksBack.trigger_not_mem {r : Rule} {before after : List String} {key : String}
    (h : r.LooksBack (before ++ key :: after)) (nodup : (before ++ key :: after).Nodup)
    (target : key ∈ r.targets) : r.condition.key ∉ key :: after := by
  obtain ⟨trigger, htrigger, htargets⟩ := h
  obtain ⟨place, hplace, lt⟩ := htargets key target
  obtain ⟨hi, hget, -⟩ := List.idxOf?_eq_some_iff.1 htrigger
  obtain ⟨_, _, hfirst⟩ := List.idxOf?_eq_some_iff.1 hplace
  -- the key itself stands right after `before`, so its first place is not further on
  have hle : place ≤ before.length := by
    by_contra hlt
    exact hfirst before.length (by omega) (by simp)
  have hbefore : r.condition.key ∈ before := by
    rw [← hget, List.getElem_append_left (by omega)]
    exact List.getElem_mem _
  exact fun hafter => (List.disjoint_of_nodup_append nodup) hbefore hafter

/-- What every rest of an accepted table's fields keeps: the next key does not come again, its rules
read none of the keys to come, and its error values are not acceptable. -/
inductive WellOrdered (s : RuleSet) : List Field → Prop
  | nil : WellOrdered s []
  | cons {f : Field} {fs : List Field} (fresh : f.key ∉ fs.map (·.key)) (separated : f.Separated)
      (back : ∀ r ∈ s.rules, f.key ∈ r.targets → r.condition.key ∉ (f :: fs).map (·.key))
      (rest : WellOrdered s fs) : WellOrdered s (f :: fs)

theorem WellOrdered.fresh {s : RuleSet} {f : Field} {fs : List Field} (h : WellOrdered s (f :: fs)) :
    f.key ∉ fs.map (·.key) := by
  cases h with
  | cons fresh _ _ _ => exact fresh

theorem Table.wellOrdered (t : Table) : WellOrdered t.rules t.fields := by
  suffices h : ∀ fs before : List Field, t.fields = before ++ fs → WellOrdered t.rules fs from
    h t.fields [] rfl
  intro fs
  induction fs with
  | nil => intro _ _; exact .nil
  | cons f fs ih =>
    intro before split
    have keys : t.keys = before.map (·.key) ++ f.key :: fs.map (·.key) := by
      rw [Table.keys, split, List.map_append, List.map_cons]
    have nodup := t.keys_nodup
    rw [keys] at nodup
    refine .cons (List.nodup_cons.1 nodup.of_append_right).1
      (t.separated f (by rw [split]; simp)) (fun r hr target => ?_) (ih (before ++ [f]) (by simp [split]))
    have back := t.looksBack r hr
    rw [keys] at back
    exact back.trigger_not_mem nodup target

/-- A table whose rules cascade: outside full mode the alternate port is skipped, and where that port is
missing so is the alternate interface, for which two rules then stand ready. The port is required, and
lists one value twice. -/
def Table.cascade : Table where
  fields :=
    [⟨Key.mode, [.string "basic", .string "full"], [.string "half"], true⟩,
      ⟨Key.alternatePort, [.number (.integer 3479), .number (.integer 3479)],
        [.number (.integer 0)], false⟩,
      ⟨Key.alternateInterface, [.string "eth0"], [.string "bogus0"], true⟩]
  rules := .ofList
    [⟨"port-needs-full", .differs Key.mode (.string "full"), [Key.alternatePort], "no alternate port"⟩,
      ⟨"interface-needs-port", .differs Key.alternatePort (.number (.integer 3479)),
        [Key.alternateInterface], "nothing to bind"⟩,
      ⟨"interface-needs-full", .differs Key.mode (.string "full"), [Key.alternateInterface],
        "no alternate endpoint"⟩]
  sound := by decide

end ServerTrials.Trial
