import Mathlib.Data.List.Induction
import ServerTrials.Proofs.Server.Judging

/-!
The addresses that a host lists, and the second address of a full server.

Going through the addresses of all interfaces in order, one is appended to the list if it is of the family
and not there yet. So the list has the addresses of the family, each once, and they stand in the order in
which they are first met (`ordered_addresses`). A list of two such addresses has one beside any given
address, so a full server that names no alternate interface always has an alternate address: what its
endpoints would be without one makes no difference (`fullEndpointsOr_eq`).
-/

namespace ServerTrials

namespace Host

variable {host : Host} {met known : List IpAddress} {family : Family} {a b : IpAddress}

/-- The addresses of all interfaces, in their order. -/
def allAddresses (host : Host) : List IpAddress := host.interfaces.flatMap (·.addresses)

/-- The first place of one address lies before the first place of the other. -/
def FirstBefore (met : List IpAddress) (a b : IpAddress) : Prop := met.idxOf a < met.idxOf b

/-- What is met later does not change an order. -/
theorem firstBefore_append (ha : a ∈ met) (hb : b ∈ met) (h : FirstBefore met a b)
    (later : List IpAddress) : FirstBefore (met ++ later) a b := by
  rwa [FirstBefore, List.idxOf_append_of_mem ha, List.idxOf_append_of_mem hb]

theorem pairwise_firstBefore_append (sub : ∀ a ∈ known, a ∈ met) (h : known.Pairwise (FirstBefore met))
    (later : List IpAddress) : known.Pairwise (FirstBefore (met ++ later)) :=
  h.imp_of_mem fun ha hb => (firstBefore_append (sub _ ha) (sub _ hb) · later)

/-- An address that was never met comes after all that were. -/
theorem firstBefore_of_new (old : a ∈ met) (new : b ∉ met) : FirstBefore (met ++ [b]) a b := by
  rw [FirstBefore, List.idxOf_append_of_mem old, List.idxOf_append_of_notMem new]
  exact Nat.lt_add_right _ (List.idxOf_lt_length_of_mem old)

/-- One step keeps the order: a new address goes to the end. -/
theorem pairwise_addDistinct (sub : ∀ a ∈ known, a ∈ met) (all : b ∈ met → b ∈ known)
    (h : known.Pairwise (FirstBefore met)) :
    (addDistinct known b).Pairwise (FirstBefore (met ++ [b])) := by
  have kept := pairwise_firstBefore_append sub h [b]
  unfold addDistinct
  split
  next old => exact kept
  next new =>
    refine List.pairwise_append.2 ⟨kept, List.pairwise_singleton _ b, fun a ha c hc => ?_⟩
    rw [List.mem_singleton.1 hc]
    exact firstBefore_of_new (sub a ha) (mt all new)

/-- All steps together, by induction on what was met. -/
theorem pairwise_foldl_addDistinct (family : Family) (met : List IpAddress) :
    ((met.filter (·.family == family)).foldl addDistinct []).Pairwise (FirstBefore met) := by
  induction met using List.reverseRecOn with
  | nil => exact .nil
  | append_singleton met b ih =>
    have known : ∀ a, a ∈ (met.filter (·.family == family)).foldl addDistinct [] ↔
        a ∈ met ∧ a.family = family := fun a => by
      rw [mem_foldl_addDistinct, List.mem_filter, beq_iff_eq]
      simp
    have sub := fun a ha => ((known a).1 ha).1
    rw [List.filter_append, List.foldl_append, List.filter_singleton]
    cases fam : b.family == family with
    | true => exact pairwise_addDistinct sub (fun old => (known b).2 ⟨old, beq_iff_eq.1 fam⟩) ih
    | false => exact pairwise_firstBefore_append sub ih [b]

/-- The addresses are listed in the order in which they are first met. -/
theorem ordered_addresses (host : Host) (family : Family) :
    (host.addresses family).Pairwise (FirstBefore host.allAddresses) :=
  pairwise_foldl_addDistinct family host.allAddresses

/-- Beside any address a list of two or more has another one, which a search for it finds. -/
theorem exists_other (two : 2 ≤ (host.addresses family).length) (p : IpAddress) :
    ∃ q ∈ host.addresses family, q ≠ p ∧ (host.addresses family).find? (· != p) = some q := by
  have nodup := host.nodup_addresses family
  match hs : host.addresses family with
  | [] | [x] =>
    rw [hs] at two
    contradiction
  | x :: y :: more =>
    rw [hs] at nodup
    obtain ⟨q, found⟩ := exists_find?_ne nodup p
    have other := List.find?_some found
    exact ⟨q, List.mem_of_find?_eq_some found, bne_iff_ne.1 other, found⟩

end Host

namespace ServerConfig

variable {o : OptionMap} {host : Host} {family : Family} {primaryPort alternatePort : UInt16}

/-- The endpoints of a full server, with any answer for the case that the host has no address beside the
primary one. -/
def fullEndpointsOr (missing : Except ConfigError IpAddress) (o : OptionMap) (host : Host)
    (family : Family) (primaryPort alternatePort : UInt16) : Except ConfigError Endpoints :=
  match host.addresses family with
  | first :: second :: more => do
    let p ← readInterface o host family Key.primaryInterface (.ok first)
    let other := match (first :: second :: more).find? (· != p) with
      | some a => Except.ok a
      | none => missing
    let a ← readInterface o host family Key.alternateInterface other
    if p = a then .error (.sameAddress p)
    else .ok ⟨⟨p, primaryPort⟩, some ⟨p, alternatePort⟩, some ⟨a, primaryPort⟩, some ⟨a, alternatePort⟩⟩
  | _ => .error (.insufficientAddresses family)

/-- That case never comes up, so its answer makes no difference. -/
theorem fullEndpointsOr_eq (missing : Except ConfigError IpAddress) :
    fullEndpointsOr missing o host family primaryPort alternatePort =
      fullEndpoints o host family primaryPort alternatePort := by
  rw [fullEndpointsOr, fullEndpoints]
  match hs : host.addresses family with
  | [] | [x] => rfl
  | first :: second :: more =>
    have nodup := host.nodup_addresses family
    rw [hs] at nodup
    refine bind_congr fun p => ?_
    obtain ⟨q, found⟩ := Host.exists_find?_ne nodup p
    rw [found]

/-- A host is said to have too few addresses only if it has fewer than two. -/
theorem length_addresses_of_insufficient (h : ofOptions o host = .error (.insufficientAddresses family)) :
    (host.addresses family).length < 2 := by
  obtain ⟨before, r, after, -, -, broken⟩ := (judges_ofOptions o host).eq_error_iff.1 h
  cases broken with
  | twoAddresses atMostOne => exact Host.length_addresses_lt_two_iff.2 atMostOne

end ServerConfig

namespace Host

open ServerConfig

/-- A host lists what its interfaces have of a family, each address once, in the order in which they are
first met, and an interface answers with an address of the list. Of two or more addresses one is beside any
given one, and a search finds it. So a full server never lacks a default for its alternate address: it is
only told that there are too few addresses if fewer than two are listed. -/
theorem addresses_enumerate (host : Host) (family : Family) :
    (∀ a, a ∈ host.addresses family ↔ a.family = family ∧ ∃ i ∈ host.interfaces, a ∈ i.addresses) ∧
    (host.addresses family).Nodup ∧
    (host.addresses family).Pairwise (FirstBefore host.allAddresses) ∧
    (∀ name a, host.addressFor? family name = some a → a ∈ host.addresses family) ∧
    (2 ≤ (host.addresses family).length → ∀ p, ∃ q ∈ host.addresses family,
      q ≠ p ∧ (host.addresses family).find? (· != p) = some q) ∧
    (∀ missing o primaryPort alternatePort, fullEndpointsOr missing o host family primaryPort alternatePort =
      fullEndpoints o host family primaryPort alternatePort) ∧
    ∀ o, ofOptions o host = .error (.insufficientAddresses family) → (host.addresses family).length < 2 :=
  ⟨fun _ => mem_addresses_iff, host.nodup_addresses family, host.ordered_addresses family,
    fun _ _ found => mem_addresses_iff.2 (offers_of_addressFor? found), fun two => exists_other two,
    fun missing _ _ _ => fullEndpointsOr_eq missing, fun _ => length_addresses_of_insufficient⟩

/-- A host whose interfaces share an address, and which has one IPv6 address only. -/
def overlapping : Host :=
  ⟨[⟨"lo", [.quad 127 0 0 1, .ofGroups [0, 0, 0, 0, 0, 0, 0, 1]]⟩,
    ⟨"eth0", [.quad 10 0 0 2, .quad 127 0 0 1, .quad 10 0 0 2]⟩,
    ⟨"eth1", [.ofGroups [0, 0, 0, 0, 0, 0, 0, 1], .quad 192 0 2 1]⟩]⟩

/-- A full server for IPv6. -/
def fullOnV6 : OptionMap := .ofList [(Key.mode, .string "full"), (Key.family, .number (.integer 6))]

/-- The shared address is listed once, and there is another beside it; of IPv6 there are too few. -/
theorem addresses_of_overlapping :
    overlapping.addresses .v4 = [.quad 127 0 0 1, .quad 10 0 0 2, .quad 192 0 2 1] ∧
    .quad 192 0 2 1 ∈ overlapping.addresses .v4 ∧
    (∃ q ∈ overlapping.addresses .v4, q ≠ .quad 127 0 0 1) ∧
    (overlapping.addresses .v6).length < 2 := by
  have v4 := addresses_enumerate overlapping .v4
  have v6 := addresses_enumerate overlapping .v6
  have found : overlapping.addressFor? .v4 "eth1" = some (.quad 192 0 2 1) := by rfl
  have few : ofOptions fullOnV6 overlapping = .error (.insufficientAddresses .v6) := by rfl
  obtain ⟨q, listed, other, -⟩ := v4.2.2.2.2.1 (by decide) (.quad 127 0 0 1)
  exact ⟨by decide, v4.2.2.2.1 "eth1" _ found, ⟨q, listed, other⟩, v6.2.2.2.2.2.2 fullOnV6 few⟩

end Host
end ServerTrials
