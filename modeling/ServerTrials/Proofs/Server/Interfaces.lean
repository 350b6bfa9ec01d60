import ServerTrials.Proofs.Server.Judging

/-!
Interfaces that options name.

A name is answered by the first interface that bears it, and by no other. So an address is found iff that
interface has one of the family (`addressFor?_isSome_iff`). Names can repeat, and then an address may stand
on a later interface of the name: it is reported missing although the host offers it under that name. The
answer is right for a name iff the first interface of it has an address of the family as soon as any has
(`FirstServes`), as it is for all names if no two interfaces share one.
-/

namespace ServerTrials

/-- The interface has an address of the family. -/
def Interface.Serves (i : Interface) (family : Family) : Prop := ∃ a ∈ i.addresses, a.family = family

namespace Host

variable {host : Host} {family : Family} {name : String} {i j : Interface}

/-- The first interface of that name. -/
def FirstNamed (host : Host) (name : String) (i : Interface) : Prop :=
  ∃ before after, host.interfaces = before ++ i :: after ∧ i.name = name ∧ ∀ j ∈ before, j.name ≠ name

/-- Some interface of that name has an address of the family. -/
def ServedBy (host : Host) (family : Family) (name : String) : Prop :=
  ∃ i ∈ host.interfaces, i.name = name ∧ i.Serves family

/-- The first interface of that name has an address of the family, or none of that name has. -/
def FirstServes (host : Host) (family : Family) (name : String) : Prop :=
  host.ServedBy family name → ∃ i, host.FirstNamed name i ∧ i.Serves family

theorem FirstNamed.mem (h : host.FirstNamed name i) : i ∈ host.interfaces ∧ i.name = name := by
  obtain ⟨before, after, split, named, -⟩ := h
  rw [split]
  exact ⟨by simp, named⟩

theorem find?_eq_some_iff_firstNamed :
    host.interfaces.find? (·.name == name) = some i ↔ host.FirstNamed name i := by
  rw [List.find?_eq_some_iff_append, FirstNamed]
  simp only [beq_iff_eq, Bool.not_eq_true', beq_eq_false_iff_ne, ne_eq]
  constructor
  · rintro ⟨named, before, after, split, others⟩
    exact ⟨before, after, split, named, others⟩
  · rintro ⟨before, after, split, named, others⟩
    exact ⟨named, before, after, split, others⟩

/-- An address is found iff the first interface of the name has one of the family. -/
theorem addressFor?_isSome_iff : (host.addressFor? family name).isSome = true ↔
    ∃ i, host.FirstNamed name i ∧ i.Serves family := by
  have serves : ∀ i : Interface, (i.addresses.find? (·.family == family)).isSome = true ↔ i.Serves family :=
    fun i => by simp [Interface.Serves]
  simp only [← find?_eq_some_iff_firstNamed, ← serves]
  rw [addressFor?]
  cases host.interfaces.find? (·.name == name) with
  | none => simp
  | some i => simp

/-- The answer is right for a name iff the first interface of it decides. -/
theorem addressFor?_complete_iff :
    ((host.addressFor? family name).isSome = true ↔ host.ServedBy family name) ↔
      host.FirstServes family name := by
  rw [addressFor?_isSome_iff, FirstServes]
  constructor
  · exact fun complete served => complete.2 served
  · refine fun first => ⟨?_, first⟩
    rintro ⟨i, named, serves⟩
    exact ⟨i, named.mem.1, named.mem.2, serves⟩

/-- If no two interfaces share a name, the first one of a name is the only one. -/
theorem firstServes_of_nodup (distinct : (host.interfaces.map (·.name)).Nodup) (family : Family)
    (name : String) : host.FirstServes family name := by
  rintro ⟨i, mem, named, serves⟩
  obtain ⟨before, after, split⟩ := List.append_of_mem mem
  refine ⟨i, ⟨before, after, split, named, fun j hj same => ?_⟩, serves⟩
  rw [split, List.map_append, List.map_cons] at distinct
  have apart := List.disjoint_of_nodup_append distinct
  exact apart (List.mem_map_of_mem hj) (by rw [same, named]; exact List.mem_cons_self)

end Host

namespace ServerConfig

variable {o : OptionMap} {host : Host} {key name : String}

theorem key_of_resolves {mode : Mode} (h : Rule.resolves key ∈ Rule.inOrder mode) :
    key = Key.primaryInterface ∨ key = Key.alternateInterface := by
  simp only [Rule.inOrder, Rule.ofTransport, Rule.ofPorts, Rule.ofAdvertised] at h
  cases mode with
  | basic => exact .inl (by simpa [Rule.ofEndpoints] using h)
  | full => simpa [Rule.ofEndpoints] using h

/-- An interface is reported missing under the option that names it, and only if no address is found. -/
theorem named_of_interfaceNotFound (h : ofOptions o host = .error (.interfaceNotFound key name)) :
    (key = Key.primaryInterface ∨ key = Key.alternateInterface) ∧ o.get? key = some (.string name) ∧
      host.addressFor? (familyOf o) name = none := by
  obtain ⟨before, r, after, split, -, broken⟩ := (judges_ofOptions o host).eq_error_iff.1 h
  cases broken with
  | resolves present missing =>
    have member : Rule.resolves key ∈ Rule.inOrder (modeOf o) := by simp [split]
    exact ⟨key_of_resolves member, present, missing⟩

/-- An address is found under a name iff the first interface of the name has one of the family. That is to
say iff any interface of the name has one exactly if the first one decides. So an interface that is reported
missing has no address of the family exactly if the first one of its name decides, and it always does if no
two interfaces share a name. -/
theorem first_interface_decides (host : Host) :
    (∀ family name, (host.addressFor? family name).isSome = true ↔
      ∃ i, host.FirstNamed name i ∧ i.Serves family) ∧
    (∀ family name, ((host.addressFor? family name).isSome = true ↔ host.ServedBy family name) ↔
      host.FirstServes family name) ∧
    (∀ o key name, ofOptions o host = .error (.interfaceNotFound key name) →
      (key = Key.primaryInterface ∨ key = Key.alternateInterface) ∧ o.get? key = some (.string name) ∧
        (¬ host.ServedBy (familyOf o) name ↔ host.FirstServes (familyOf o) name)) ∧
    ((host.interfaces.map (·.name)).Nodup → ∀ family name, host.FirstServes family name) := by
  refine ⟨fun _ _ => Host.addressFor?_isSome_iff, fun _ _ => Host.addressFor?_complete_iff,
    fun o key name refused => ?_, Host.firstServes_of_nodup⟩
  obtain ⟨option, present, missing⟩ := named_of_interfaceNotFound refused
  refine ⟨option, present, ?_⟩
  rw [← Host.addressFor?_complete_iff, missing]
  simp

/-- An IPv6 server on a named interface. -/
def v6On (name : String) : OptionMap :=
  .ofList [(Key.family, .number (.integer 6)), (Key.primaryInterface, .string name)]

/-- No two interfaces share a name here, so a name that is reported missing has no address. -/
theorem first_decides_dualHomed : ¬ Host.dualHomed.ServedBy (familyOf (v6On "wlan0")) "wlan0" := by
  have decides := first_interface_decides .dualHomed
  have refused : ofOptions (v6On "wlan0") .dualHomed =
      .error (.interfaceNotFound Key.primaryInterface "wlan0") := by rfl
  exact (decides.2.2.1 _ _ _ refused).2.2.2 (decides.2.2.2 (by decide) _ _)

/-- A host with an entry for each family of one interface. -/
def splitByFamily : Host :=
  ⟨[⟨"eth0", [.quad 10 0 0 2]⟩, ⟨"eth0", [.ofGroups [0xfd00, 0, 0, 0, 0, 0, 0, 2]]⟩]⟩

/-- The interface is reported missing although its second entry has an address of the family. -/
theorem interfaceNotFound_beside_address :
    ofOptions (v6On "eth0") splitByFamily = .error (.interfaceNotFound Key.primaryInterface "eth0") ∧
    splitByFamily.ServedBy (familyOf (v6On "eth0")) "eth0" ∧
    ¬ ((splitByFamily.addressFor? .v6 "eth0").isSome = true ↔ splitByFamily.ServedBy .v6 "eth0") := by
  have v6 : familyOf (v6On "eth0") = .v6 := by decide +kernel
  have served : splitByFamily.ServedBy .v6 "eth0" :=
    ⟨⟨"eth0", [.ofGroups [0xfd00, 0, 0, 0, 0, 0, 0, 2]]⟩, by simp [splitByFamily], rfl,
      .ofGroups [0xfd00, 0, 0, 0, 0, 0, 0, 2], List.mem_singleton_self _, rfl⟩
  refine ⟨by rfl, v6 ▸ served, fun complete => ?_⟩
  have found := complete.2 served
  contradiction

end ServerConfig
end ServerTrials
