import Mathlib.Data.List.Nodup
import ServerTrials.Server.Options

/-!
Option maps are read through `get?`: what a map answers decides which map it is.

Sameness (`==`) drops the sign of zero, so it is brought down to equality once: `value?` answers the
canonical value, and two maps are the same iff `value?` answers alike everywhere. A trial walks a map
name by name; `AgreeOff` says that two maps can differ at most at the names not walked yet.
-/

namespace ServerTrials

namespace Json

theorem canonicalMembers_eq_map : ∀ members : List (String × Json),
    canonicalMembers members = members.map fun m => (m.1, m.2.canonical)
  | [] => by rw [canonicalMembers, List.map_nil]
  | (k, x) :: ms => by rw [canonicalMembers, List.map_cons, canonicalMembers_eq_map ms]

theorem get?_cons (m : String × Json) (ms : List (String × Json)) (key : String) :
    get? (m :: ms) key = if m.1 = key then some m.2 else get? ms key := by
  by_cases h : m.1 = key <;> simp [get?, h]

theorem get?_canonicalMembers (members : List (String × Json)) (key : String) :
    get? (canonicalMembers members) key = (get? members key).map canonical := by
  rw [canonicalMembers_eq_map]
  induction members with
  | nil => rfl
  | cons m ms ih =>
    rw [List.map_cons, get?_cons, get?_cons, ih]
    by_cases h : m.1 = key <;> simp [h]

theorem get?_setMember (name : String) (value : Json) (members : List (String × Json))
    (key : String) :
    get? (setMember name value members) key = if name = key then some value else get? members key := by
  induction members with
  | nil => rw [setMember, get?_cons]
  | cons m ms ih =>
    unfold setMember
    split
    · rw [get?_cons]
    · split
      next not_lt lt =>
        rw [get?_cons, get?_cons, ih]
        by_cases hm : m.1 = key
        · have hne : name ≠ key := fun e => String.lt_irrefl key (by rw [hm, e] at lt; exact lt)
          rw [if_pos hm, if_pos hm, if_neg hne]
        · rw [if_neg hm, if_neg hm]
      next not_lt not_gt =>
        have same : name = m.1 :=
          String.le_antisymm (String.not_lt.1 not_gt) (String.not_lt.1 not_lt)
        rw [get?_cons, get?_cons, same]
        by_cases hm : m.1 = key <;> simp [hm]

/-- Under rising names a member is what its name answers. -/
theorem Rising.get?_eq_some_iff {members : List (String × Json)} (h : Rising members)
    {key : String} {value : Json} :
    get? members key = some value ↔ (key, value) ∈ members := by
  induction members with
  | nil => simp [get?]
  | cons m ms ih =>
    obtain ⟨first, rest⟩ := List.pairwise_cons.1 h
    rw [get?_cons, List.mem_cons]
    by_cases hm : m.1 = key
    · have absent : (key, value) ∉ ms := fun hmem =>
        String.lt_irrefl key (by have := first _ hmem; rw [hm] at this; exact this)
      rw [if_pos hm, Option.some.injEq, Prod.ext_iff]
      simp [absent, hm, eq_comm]
    · rw [if_neg hm, ih rest]
      exact ⟨Or.inr, fun e => e.resolve_left fun e => hm (e ▸ rfl)⟩

theorem Rising.nodup {members : List (String × Json)} (h : Rising members) :
    (members.map (·.1)).Nodup := by
  refine List.pairwise_map.2 (h.imp fun {a b} lt => ?_)
  exact fun e => String.lt_irrefl b.1 (by rw [e] at lt; exact lt)

/-- Two lists of rising names that answer alike are one list. -/
theorem Rising.ext {a b : List (String × Json)} (ha : Rising a) (hb : Rising b)
    (h : ∀ key, get? a key = get? b key) : a = b := by
  have members : ∀ m, m ∈ a ↔ m ∈ b := fun (k, v) => by
    rw [← ha.get?_eq_some_iff, ← hb.get?_eq_some_iff, h k]
  have perm : a.Perm b :=
    (List.perm_ext_iff_of_nodup ha.nodup.of_map hb.nodup.of_map).2 members
  exact perm.eq_of_pairwise (fun x y _ _ lt gt => absurd gt (String.lt_asymm lt)) ha hb

/-- The value is neither a fraction nor made of other values; no other value is the same. -/
def isPlain : Json → Bool
  | .null | .bool _ | .string _ | .number (.integer _) | .array [] | .object [] => true
  | _ => false

theorem eq_of_beq_plain {v w : Json} (plain : w.isPlain = true) (h : (v == w) = true) : v = w := by
  rw [beq_iff] at h
  match w, plain with
  | .null, _ | .bool _, _ | .string _, _ => cases v <;> simp_all [canonical]
  | .number (.integer n), _ =>
    match v with
    | .number (.integer m) => simpa [canonical, Number.canonical] using h
    | .number (.fraction _) => simp [canonical, Number.canonical] at h
    | .null | .bool _ | .string _ | .array _ | .object _ => simp [canonical] at h
  | .array [], _ =>
    match v with
    | .array [] => rfl
    | .array (_ :: _) => simp [canonical, canonicalItems] at h
    | .null | .bool _ | .number _ | .string _ | .object _ => simp [canonical] at h
  | .object [], _ =>
    match v with
    | .object [] => rfl
    | .object (_ :: _) => simp [canonical, canonicalMembers] at h
    | .null | .bool _ | .number _ | .string _ | .array _ => simp [canonical] at h

theorem contains_iff_mem_of_plain {values : List Json} {v : Json}
    (plain : ∀ w ∈ values, w.isPlain = true) : values.contains v = true ↔ v ∈ values := by
  rw [List.contains_iff_exists_mem_beq]
  constructor
  · rintro ⟨w, hw, same⟩
    rwa [eq_of_beq_plain (plain w hw) same]
  · intro h
    exact ⟨v, h, BEq.rfl⟩

theorem Rising.canonicalMembers {members : List (String × Json)} (h : Rising members) :
    Rising (canonicalMembers members) := by
  rw [canonicalMembers_eq_map]
  exact List.pairwise_map.2 h

end Json

namespace OptionMap

theorem get?_empty (key : String) : empty.get? key = none := rfl

theorem get?_insert (o : OptionMap) (name : String) (value : Json) (key : String) :
    (o.insert name value).get? key = if name = key then some value else o.get? key :=
  Json.get?_setMember name value o.entries key

theorem mem_entries_iff {o : OptionMap} {key : String} {value : Json} :
    (key, value) ∈ o.entries ↔ o.get? key = some value :=
  o.rising.get?_eq_some_iff.symm

/-- Maps that answer alike are one map. -/
theorem ext_get? {o p : OptionMap} (h : ∀ key, o.get? key = p.get? key) : o = p := by
  obtain ⟨entries, rising⟩ := o
  obtain ⟨entries', rising'⟩ := p
  obtain rfl : entries = entries' := rising.ext rising' h
  rfl

theorem contains_eq_false_iff {o : OptionMap} {key : String} :
    o.contains key = false ↔ o.get? key = none := by
  rw [contains, Option.isSome_eq_false_iff, Option.isNone_iff_eq_none]

theorem mem_keys_iff {o : OptionMap} {key : String} : key ∈ o.keys ↔ o.get? key ≠ none := by
  rw [keys, List.mem_map, Option.ne_none_iff_exists']
  constructor
  · rintro ⟨m, hm, rfl⟩
    exact ⟨m.2, mem_entries_iff.1 hm⟩
  · rintro ⟨v, hv⟩
    exact ⟨(key, v), mem_entries_iff.2 hv, rfl⟩

/-! ### Sameness -/

/-- The value of an option up to the sign of zero. -/
def value? (o : OptionMap) (key : String) : Option Json := (o.get? key).map Json.canonical

theorem value?_eq_none_iff {o : OptionMap} {key : String} :
    o.value? key = none ↔ o.get? key = none := Option.map_eq_none_iff

/-- Two maps are the same iff they hold the same values under the same names. -/
theorem beq_iff {o p : OptionMap} : (o == p) = true ↔ ∀ key, o.value? key = p.value? key := by
  have entries : (o == p) = true ↔ Json.canonicalMembers o.entries = Json.canonicalMembers p.entries :=
    decide_eq_true_iff
  rw [entries]
  constructor
  · intro h key
    rw [value?, value?, get?, get?, ← Json.get?_canonicalMembers, h, Json.get?_canonicalMembers]
  · intro h
    refine o.rising.canonicalMembers.ext p.rising.canonicalMembers fun key => ?_
    rw [Json.get?_canonicalMembers, Json.get?_canonicalMembers]
    exact h key

instance : EquivBEq OptionMap where
  rfl := beq_iff.2 fun _ => rfl
  symm h := beq_iff.2 fun key => (beq_iff.1 h key).symm
  trans h₁ h₂ := beq_iff.2 fun key => (beq_iff.1 h₁ key).trans (beq_iff.1 h₂ key)

/-! ### Agreement away from some names -/

/-- The maps hold the same values under all other names. -/
def AgreeOff (names : List String) (o p : OptionMap) : Prop :=
  ∀ key, key ∉ names → o.value? key = p.value? key

theorem agreeOff_nil_iff {o p : OptionMap} : AgreeOff [] o p ↔ (o == p) = true := by
  simp [AgreeOff, beq_iff]

theorem AgreeOff.of_cons {name : String} {names : List String} {o p : OptionMap}
    (h : AgreeOff names o p) : AgreeOff (name :: names) o p :=
  fun key hkey => h key fun hmem => hkey (List.mem_cons_of_mem name hmem)

/-- Leaving a name out of both maps settles it. -/
theorem agreeOff_iff_of_get?_eq_none {name : String} {names : List String} {o : OptionMap}
    (fresh : name ∉ names) (absent : o.get? name = none) {p : OptionMap} :
    AgreeOff names o p ↔ AgreeOff (name :: names) o p ∧ p.get? name = none := by
  constructor
  · intro h
    refine ⟨h.of_cons, ?_⟩
    rw [← value?_eq_none_iff, ← h name fresh, value?_eq_none_iff, absent]
  · rintro ⟨h, hp⟩ key hkey
    by_cases hk : key = name
    · rw [hk, value?_eq_none_iff.2 absent, value?_eq_none_iff.2 hp]
    · exact h key (by simp [hk, hkey])

/-- Setting a name to the other map's value settles it. -/
theorem agreeOff_insert_iff {name : String} {names : List String} (fresh : name ∉ names)
    {o p : OptionMap} {value : Json} :
    AgreeOff names (o.insert name value) p ↔
      AgreeOff (name :: names) o p ∧ ∃ v, p.get? name = some v ∧ (value == v) = true := by
  have set : ∀ key, (o.insert name value).value? key
      = if name = key then some value.canonical else o.value? key := fun key => by
    rw [value?, get?_insert, value?]; split <;> rfl
  constructor
  · intro h
    refine ⟨fun key hkey => ?_, ?_⟩
    · obtain ⟨hne, hkey⟩ := not_or.1 (mt List.mem_cons.2 hkey)
      rw [← h key hkey, set, if_neg (Ne.symm hne)]
    · have hv := h name fresh
      rw [set, if_pos rfl] at hv
      obtain ⟨v, hget, hc⟩ := Option.map_eq_some_iff.1 hv.symm
      exact ⟨v, hget, Json.beq_iff.2 hc.symm⟩
  · rintro ⟨h, v, hget, hv⟩ key hkey
    rw [set]
    by_cases hk : name = key
    · rw [if_pos hk, ← hk, value?, hget, Option.map_some, Json.beq_iff.1 hv]
    · rw [if_neg hk]
      exact h key (by simp [hkey, Ne.symm hk])

/-- The map is the other one iff they agree off some names at which neither holds anything. -/
theorem beq_iff_agreeOff {names : List String} {o p : OptionMap}
    (absent : ∀ name ∈ names, o.get? name = none) :
    (o == p) = true ↔ AgreeOff names o p ∧ ∀ name ∈ names, p.get? name = none := by
  rw [beq_iff]
  constructor
  · intro h
    refine ⟨fun key _ => h key, fun name hname => ?_⟩
    rw [← value?_eq_none_iff, ← h name, value?_eq_none_iff, absent name hname]
  · rintro ⟨h, hp⟩ key
    by_cases hk : key ∈ names
    · rw [value?_eq_none_iff.2 (absent key hk), value?_eq_none_iff.2 (hp key hk)]
    · exact h key hk

/-! ### Agreement on some names -/

/-- The maps hold the same values under these names. -/
def AgreeOn (names : List String) (o p : OptionMap) : Prop :=
  ∀ key ∈ names, o.value? key = p.value? key

instance (names : List String) (o p : OptionMap) : Decidable (AgreeOn names o p) :=
  inferInstanceAs (Decidable (∀ key ∈ names, _))

theorem AgreeOn.of_subset {names more : List String} {o p : OptionMap} (h : AgreeOn more o p)
    (subset : names ⊆ more) : AgreeOn names o p := fun key hkey => h key (subset hkey)

/-- Setting another name is not seen. -/
theorem agreeOn_insert {names : List String} {name : String} (other : name ∉ names) (o : OptionMap)
    (value : Json) : AgreeOn names (o.insert name value) o := fun key hkey => by
  rw [value?, get?_insert, if_neg fun e => other (by rw [e]; exact hkey), value?]

/-- The map without the signs of zeros. -/
def canonical (o : OptionMap) : OptionMap where
  entries := Json.canonicalMembers o.entries
  rising := o.rising.canonicalMembers

theorem get?_canonical (o : OptionMap) (key : String) : o.canonical.get? key = o.value? key :=
  Json.get?_canonicalMembers o.entries key

/-- Reading a string does not see the sign of zero. -/
theorem string?_canonical (o : OptionMap) (key : String) : o.canonical.string? key = o.string? key := by
  rw [string?, string?, get?_canonical, value?]
  cases o.get? key with
  | none => rfl
  | some v => cases v <;> rfl

/-- Neither does reading an integer. -/
theorem integer?_canonical (o : OptionMap) (key : String) :
    o.canonical.integer? key = o.integer? key := by
  rw [integer?, integer?, get?_canonical, value?]
  cases o.get? key with
  | none => rfl
  | some v =>
    cases v with
    | number n => cases n <;> rfl
    | _ => rfl

theorem string?_congr {o p : OptionMap} {key : String} (h : o.value? key = p.value? key) :
    o.string? key = p.string? key := by
  rw [← string?_canonical o, ← string?_canonical p, string?, string?, get?_canonical, get?_canonical, h]

theorem integer?_congr {o p : OptionMap} {key : String} (h : o.value? key = p.value? key) :
    o.integer? key = p.integer? key := by
  rw [← integer?_canonical o, ← integer?_canonical p, integer?, integer?, get?_canonical,
    get?_canonical, h]

end OptionMap
end ServerTrials
