import Mathlib.Data.List.Nodup
import ServerTrials.Net.Host

/-!
Addresses by family: those that a host offers on its interfaces, and those that a text spells.

A host lists what its interfaces have of a family, each address once, and an interface that is asked for by
name answers with one of them. Of two addresses in the list at least one differs from any given one, so
there is always a second address beside the first.
-/

namespace ServerTrials

namespace Host

variable {host : Host} {family : Family} {name : String} {a b : IpAddress} {known as : List IpAddress}

/-- The address is of that family and on one of the interfaces. -/
def Offers (host : Host) (family : Family) (a : IpAddress) : Prop :=
  a.family = family ∧ ∃ i ∈ host.interfaces, a ∈ i.addresses

/-! ### The list of addresses -/

theorem mem_addDistinct : a ∈ addDistinct known b ↔ a ∈ known ∨ a = b := by
  unfold addDistinct
  split
  next old =>
    constructor
    · exact Or.inl
    · rintro (h | rfl)
      · exact h
      · exact old
  next new => rw [List.mem_append, List.mem_singleton]

theorem nodup_addDistinct (h : known.Nodup) : (addDistinct known b).Nodup := by
  unfold addDistinct
  split
  next old => exact h
  next new =>
    refine h.append (List.nodup_singleton b) ?_
    intro a ha hb
    rw [List.mem_singleton.1 hb] at ha
    exact new ha

theorem mem_foldl_addDistinct : ∀ {as known : List IpAddress},
    a ∈ as.foldl addDistinct known ↔ a ∈ known ∨ a ∈ as
  | [], known => by simp
  | b :: as, known => by
    rw [List.foldl_cons, mem_foldl_addDistinct, mem_addDistinct, List.mem_cons, or_assoc]

theorem nodup_foldl_addDistinct : ∀ (as : List IpAddress) {known : List IpAddress}, known.Nodup →
    (as.foldl addDistinct known).Nodup
  | [], _, h => h
  | _ :: as, _, h => nodup_foldl_addDistinct as (nodup_addDistinct h)

theorem mem_addresses_iff : a ∈ host.addresses family ↔ host.Offers family a := by
  rw [addresses, mem_foldl_addDistinct, List.mem_filter, List.mem_flatMap, beq_iff_eq, Offers]
  constructor
  · rintro (h | ⟨on, fam⟩)
    · exact absurd h List.not_mem_nil
    · exact ⟨fam, on⟩
  · rintro ⟨fam, on⟩
    exact Or.inr ⟨on, fam⟩

theorem nodup_addresses (host : Host) (family : Family) : (host.addresses family).Nodup :=
  nodup_foldl_addDistinct _ List.nodup_nil

/-- An interface answers with an address that the host offers. -/
theorem offers_of_addressFor? (h : host.addressFor? family name = some a) : host.Offers family a := by
  obtain ⟨i, named, found⟩ := Option.bind_eq_some_iff.1 h
  have fam := List.find?_some found
  rw [beq_iff_eq] at fam
  exact ⟨fam, i, List.mem_of_find?_eq_some named, List.mem_of_find?_eq_some found⟩

/-! ### A second address -/

/-- In a list of two different addresses or more there is one beside any given one. -/
theorem exists_find?_ne (nodup : (a :: b :: as).Nodup) (p : IpAddress) :
    ∃ q, (a :: b :: as).find? (· != p) = some q := by
  rw [← Option.isSome_iff_exists, List.find?_isSome]
  by_cases ha : a = p
  · refine ⟨b, by simp, ?_⟩
    have ne : a ≠ b := fun e => (List.nodup_cons.1 nodup).1 (e ▸ List.mem_cons_self)
    rw [bne_iff_ne, ← ha]
    exact ne.symm
  · exact ⟨a, List.mem_cons_self, bne_iff_ne.2 ha⟩

/-- Fewer than two addresses are listed iff any two that the host offers are the same. -/
theorem length_addresses_lt_two_iff : (host.addresses family).length < 2 ↔
    ∀ a b, host.Offers family a → host.Offers family b → a = b := by
  have nodup := nodup_addresses host family
  simp only [← mem_addresses_iff]
  constructor
  · intro few a b ha hb
    match hs : host.addresses family with
    | [] => rw [hs] at ha; exact absurd ha List.not_mem_nil
    | [x] =>
      rw [hs, List.mem_singleton] at ha hb
      rw [ha, hb]
    | x :: y :: more =>
      rw [hs, List.length_cons, List.length_cons] at few
      omega
  · intro same
    match hs : host.addresses family with
    | [] => simp
    | [x] => simp
    | x :: y :: more =>
      rw [hs] at same nodup
      refine absurd (same x y (by simp) (by simp)) fun e => ?_
      exact (List.nodup_cons.1 nodup).1 (e ▸ List.mem_cons_self)

/-! ### Further interfaces -/

/-- The host with further interfaces after its own. -/
def extend (host : Host) (more : List Interface) : Host := ⟨host.interfaces ++ more⟩

/-- The first interface of a name stays the first one, so what it answers stays the answer. -/
theorem addressFor?_extend (h : host.addressFor? family name = some a) (more : List Interface) :
    (host.extend more).addressFor? family name = some a := by
  obtain ⟨i, named, found⟩ := Option.bind_eq_some_iff.1 h
  rw [addressFor?, extend, List.find?_append, named]
  exact found

theorem exists_foldl_addDistinct_eq_append : ∀ as known : List IpAddress,
    ∃ later, as.foldl addDistinct known = known ++ later
  | [], known => ⟨[], (List.append_nil known).symm⟩
  | b :: as, known => by
    obtain ⟨later, h⟩ := exists_foldl_addDistinct_eq_append as (addDistinct known b)
    rw [List.foldl_cons, h, addDistinct]
    split
    next old => exact ⟨later, rfl⟩
    next new => exact ⟨b :: later, by rw [List.append_assoc, List.singleton_append]⟩

/-- New addresses are listed after the old ones. -/
theorem exists_addresses_extend (host : Host) (more : List Interface) (family : Family) :
    ∃ later, (host.extend more).addresses family = host.addresses family ++ later := by
  simp only [addresses, extend, List.flatMap_append, List.filter_append, List.foldl_append]
  exact exists_foldl_addDistinct_eq_append _ _

end Host

/-! ### Literals -/

namespace IpAddress

theorem family_unspecified (family : Family) : (unspecified family).family = family := by
  cases family <;> rfl

theorem family_of_readV4 {cs rest : List Char} {a : IpAddress} (h : readV4 cs = some (a, rest)) :
    a.family = .v4 := by
  simp only [readV4, Option.bind_eq_bind, Option.bind_eq_some_iff, Option.some.injEq, Prod.mk.injEq] at h
  obtain ⟨_, _, _, _, _, _, _, _, _, _, _, _, _, _, rfl, _⟩ := h
  rfl

theorem family_of_readV6 {cs rest : List Char} {a : IpAddress} (h : readV6 cs = some (a, rest)) :
    a.family = .v6 := by
  unfold readV6 at h
  dsimp only at h
  split at h
  · obtain ⟨rfl, -⟩ := Prod.mk.inj (Option.some.inj h)
    rfl
  · split at h
    · contradiction
    · simp only [Option.bind_eq_bind, Option.bind_eq_some_iff, Option.some.injEq, Prod.mk.injEq] at h
      obtain ⟨_, _, _, _, rfl, _⟩ := h
      rfl

/-- A literal of a family spells an address of it. -/
theorem family_of_ofText? {family : Family} {s : String} {a : IpAddress}
    (h : ofText? family s = some a) : a.family = family := by
  cases family with
  | v4 =>
    obtain ⟨⟨b, rest⟩, read, h⟩ := Option.bind_eq_some_iff.1 h
    rw [Option.ite_none_right_eq_some] at h
    obtain rfl := Option.some.inj h.2
    exact family_of_readV4 read
  | v6 =>
    obtain ⟨⟨b, rest⟩, read, h⟩ := Option.bind_eq_some_iff.1 h
    rw [Option.ite_none_right_eq_some] at h
    obtain rfl := Option.some.inj h.2
    exact family_of_readV6 read

end IpAddress
end ServerTrials
