import ServerTrials.Proofs.Server.Config
import ServerTrials.Proofs.Server.Registry

/-!
What one instance does to the registry.

A start either fails and changes nothing, also if the sockets cannot be bound after the claim, or adds the
entries of the instance to a registry that held none of them. A stop and a drop take them away again.
-/

namespace ServerTrials

/-- Of a list without repetition, there remains without one part the other part. -/
theorem perm_filter_not_mem {α : Type} [BEq α] [LawfulBEq α] {l a b : List α}
    (h : l.Perm (a ++ b)) (nodup : l.Nodup) : (l.filter fun c => c ∉ a).Perm b := by
  obtain ⟨-, -, apart⟩ := List.nodup_append.1 (h.nodup_iff.1 nodup)
  have none : a.filter (fun c => c ∉ a) = [] := List.filter_eq_nil_iff.2 fun c hc => by simp [hc]
  have all : b.filter (fun c => c ∉ a) = b :=
    List.filter_eq_self.2 fun c hc => by simpa using fun ha => apart c ha c hc rfl
  have perm := h.filter fun c => c ∉ a
  rwa [List.filter_append, none, all, List.nil_append] at perm

namespace Instance

/-- The entries that the instance has in the registry while it runs. -/
def claims (i : Instance) : List (Protocol × UInt16) := i.config.protocol.entries i.ports

/-- The entries that the instance has in the registry. -/
def held (i : Instance) : List (Protocol × UInt16) := if i.running then i.claims else []

/-- The ports of the instance are different ones, and none is port zero. -/
def Sound (i : Instance) : Prop := i.ports.Nodup ∧ 0 ∉ i.ports

variable {i : Instance} {r : Registry} {o : OptionMap} {host : Host} {listening : Bool}

theorem length_claims (i : Instance) : i.claims.length = i.ports.length := List.length_map _

theorem create_eq_ok (h : create o host listening = .ok i) :
    ServerConfig.ofOptions o host = .ok i.config ∧ i.running = false ∧ i.listening = listening := by
  rw [create] at h
  cases hc : ServerConfig.ofOptions o host with
  | error e => rw [hc] at h; simp at h
  | ok c =>
    rw [hc] at h
    obtain rfl := Except.ok.inj h
    exact ⟨rfl, rfl, rfl⟩

theorem sound_of_create (h : create o host listening = .ok i) : i.Sound :=
  (ServerConfig.judged_of_ofOptions (create_eq_ok h).1).boundPorts

/-- All that a start can do: fail and leave everything as it was, or claim the ports and run. -/
theorem start_cases (sound : i.Sound) (bind : Binder) (r : Registry) :
    (∃ e, i.start bind r = (.error e, i, r)) ∨
    (i.running = false ∧ ∃ r', r.claim i.config.protocol i.ports = .ok r' ∧
      i.start bind r = (.ok true, { i with running := true }, r')) := by
  rw [start]
  by_cases running : i.running = true
  · exact Or.inl ⟨_, if_pos running⟩
  · rw [if_neg running]
    cases hclaim : r.claim i.config.protocol i.ports with
    | error e => exact Or.inl ⟨e, rfl⟩
    | ok r' =>
      dsimp only
      cases (if i.listening = true then bind i.config.protocol i.ports else .ok ()) with
      | error e =>
        -- the claim is taken back
        have back : i.releasePorts r' = r := Registry.release_claim sound.1 hclaim
        exact Or.inl ⟨e, by rw [back]⟩
      | ok _ => exact Or.inr ⟨Bool.eq_false_iff.2 running, r', rfl, rfl⟩

theorem start_of_refused {bind : Binder} {e : ServiceError} (stopped : i.running = false)
    (refused : r.claim i.config.protocol i.ports = .error e) : i.start bind r = (.error e, i, r) := by
  rw [start, if_neg (by simp [stopped]), refused]

/-- An instance that need not listen starts once its claim is granted. -/
theorem start_of_granted {bind : Binder} {r' : Registry} (stopped : i.running = false)
    (quiet : i.listening = false) (granted : r.claim i.config.protocol i.ports = .ok r') :
    i.start bind r = (.ok true, { i with running := true }, r') := by
  rw [start, if_neg (by simp [stopped]), granted]
  dsimp only
  rw [if_neg (by simp [quiet])]

theorem stop_of_running (h : i.running = true) (r : Registry) :
    i.stop r = (.ok (), { i with running := false }, i.releasePorts r) := by rw [stop, if_pos h]

theorem stop_of_stopped (h : i.running = false) (r : Registry) :
    i.stop r = (.error .notRunning, i, r) := by rw [stop, if_neg (by simp [h])]

theorem perm_drop {rest : List (Protocol × UInt16)} (h : r.claimed.Perm (i.held ++ rest))
    (nodup : r.claimed.Nodup) : (i.drop r).claimed.Perm rest := by
  rw [drop]
  cases running : i.running with
  | true =>
    rw [held, if_pos running] at h
    rw [if_pos rfl, releasePorts, Registry.claimed_release]
    exact perm_filter_not_mem h nodup
  | false =>
    rw [held, if_neg (by simp [running]), List.nil_append] at h
    rw [if_neg Bool.false_ne_true]
    exact h

theorem nodup_drop (nodup : r.claimed.Nodup) : (i.drop r).claimed.Nodup := by
  rw [drop]
  split
  · rw [releasePorts, Registry.claimed_release]
    exact nodup.filter _
  · exact nodup

/-- A stop leaves the registry as a drop does. -/
theorem registry_stop (i : Instance) (r : Registry) : (i.stop r).2.2 = i.drop r := by
  rw [stop, drop]
  split <;> rfl

theorem running_stop (i : Instance) (r : Registry) : (i.stop r).2.1.running = false := by
  cases h : i.running with
  | true => rw [stop_of_running h]
  | false => rw [stop_of_stopped h, h]

theorem config_stop (i : Instance) (r : Registry) : (i.stop r).2.1.config = i.config := by
  cases h : i.running with
  | true => rw [stop_of_running h]
  | false => rw [stop_of_stopped h]

end Instance
end ServerTrials
