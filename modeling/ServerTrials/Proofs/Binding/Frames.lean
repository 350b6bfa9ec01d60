import Mathlib.Data.List.GetD
import ServerTrials.Binding.Stream

/-!
A byte stream as messages one after another.

`Frames s ms rest` says that `s` is the messages `ms`, each as long as its own header declares, and then a
rest that is too short for one more. Every stream is cut in exactly one way (`exists_frames`,
`Frames.unique`), and what has been cut off stays so when more bytes come in (`Frames.append`). Taking
messages off the front of what is pending makes just this cut and answers what it takes (`Frames.drain_eq`).
-/

namespace ServerTrials.Binding

/-! ### Lengths -/

theorem declaredLength_lt (s : Bytes) : declaredLength s < 65536 := by
  have high := (s.getD 2 0).toNat_lt
  have low := (s.getD 3 0).toNat_lt
  rw [declaredLength, value16]
  omega

/-- What a header declares does not depend on what follows the header. -/
theorem declaredLength_append {m : Bytes} (h : headerLength ≤ m.length) (s : Bytes) :
    declaredLength (m ++ s) = declaredLength m := by
  rw [headerLength] at h
  rw [declaredLength, declaredLength, List.getD_append _ _ _ _ (by omega),
    List.getD_append _ _ _ _ (by omega)]

theorem frameLength?_eq_none_iff {s : Bytes} :
    frameLength? s = none ↔ s.length < headerLength + declaredLength s := by
  unfold frameLength?
  split
  · simp only [true_iff]
    omega
  · simp

theorem frameLength?_eq_some_iff {s : Bytes} {n : Nat} :
    frameLength? s = some n ↔ n = headerLength + declaredLength s ∧ n ≤ s.length := by
  unfold frameLength?
  split
  · simp only [reduceCtorEq, false_iff]
    omega
  · simp only [Option.ite_none_right_eq_some, Option.some.injEq]
    omega

/-! ### Whole messages -/

/-- A message of just the length that its header declares. -/
def Whole (m : Bytes) : Prop := m.length = headerLength + declaredLength m

theorem Whole.headerLength_le {m : Bytes} (h : Whole m) : headerLength ≤ m.length := by
  rw [Whole] at h
  omega

theorem Whole.frameLength?_append {m : Bytes} (h : Whole m) (s : Bytes) :
    frameLength? (m ++ s) = some m.length := by
  rw [frameLength?_eq_some_iff, declaredLength_append h.headerLength_le, List.length_append]
  exact ⟨h, Nat.le_add_right _ _⟩

/-- Of one stream only one whole message can be taken off the front. -/
theorem Whole.append_inj {m m' s s' : Bytes} (h : Whole m) (h' : Whole m') (e : m ++ s = m' ++ s') :
    m = m' ∧ s = s' := by
  have lengths : m.length = m'.length := by
    have first := h.frameLength?_append s
    rw [e, h'.frameLength?_append] at first
    exact (Option.some.inj first).symm
  exact List.append_inj e lengths

theorem whole_take {s : Bytes} {n : Nat} (h : frameLength? s = some n) : Whole (s.take n) := by
  obtain ⟨length, le⟩ := frameLength?_eq_some_iff.1 h
  have taken : (s.take n).length = n := by rw [List.length_take]; omega
  have declared : declaredLength (s.take n ++ s.drop n) = declaredLength (s.take n) :=
    declaredLength_append (by omega) _
  rw [List.take_append_drop] at declared
  rw [Whole, taken, ← declared]
  exact length

/-! ### The messages of a stream -/

/-- The stream is these messages and a rest that is no whole one yet. -/
inductive Frames : Bytes → List Bytes → Bytes → Prop where
  | rest {s : Bytes} (short : frameLength? s = none) : Frames s [] s
  | frame {m s rest : Bytes} {ms : List Bytes} (whole : Whole m) (later : Frames s ms rest) :
    Frames (m ++ s) (m :: ms) rest

variable {s rest : Bytes} {ms : List Bytes}

theorem exists_frames (s : Bytes) : ∃ ms rest, Frames s ms rest := by
  induction h : s.length using Nat.strongRecOn generalizing s with
  | _ length ih =>
    cases hn : frameLength? s with
    | none => exact ⟨[], s, .rest hn⟩
    | some n =>
      obtain ⟨pos, le⟩ := headerLength_le_of_frameLength? hn
      rw [headerLength] at pos
      have shorter : (s.drop n).length < length := by
        rw [List.length_drop]
        omega
      obtain ⟨ms, rest, later⟩ := ih _ shorter (s.drop n) rfl
      have cut := Frames.frame (whole_take hn) later
      rw [List.take_append_drop] at cut
      exact ⟨_, _, cut⟩

theorem Frames.unique {ms' : List Bytes} {rest' : Bytes} (h : Frames s ms rest)
    (h' : Frames s ms' rest') : ms' = ms ∧ rest' = rest := by
  induction h generalizing ms' with
  | rest short =>
    cases h' with
    | rest => exact ⟨rfl, rfl⟩
    | frame whole later =>
      rw [whole.frameLength?_append] at short
      exact absurd short (by simp)
  | @frame m s rest ms whole later ih =>
    generalize e : m ++ s = stream at h'
    cases h' with
    | rest short =>
      rw [← e, whole.frameLength?_append] at short
      exact absurd short (by simp)
    | frame whole' later' =>
      obtain ⟨rfl, rfl⟩ := whole.append_inj whole' e
      obtain ⟨rfl, rfl⟩ := ih later'
      exact ⟨rfl, rfl⟩

/-- Nothing is lost, and nothing is taken twice. -/
theorem Frames.flatten_append (h : Frames s ms rest) : ms.flatten ++ rest = s := by
  induction h with
  | rest => rfl
  | frame whole later ih => rw [List.flatten_cons, List.append_assoc, ih]

theorem Frames.whole_of_mem (h : Frames s ms rest) {m : Bytes} (hm : m ∈ ms) : Whole m := by
  induction h with
  | rest => exact absurd hm List.not_mem_nil
  | frame whole later ih =>
    rcases List.mem_cons.1 hm with rfl | hm
    · exact whole
    · exact ih hm

theorem Frames.frameLength?_rest (h : Frames s ms rest) : frameLength? rest = none := by
  induction h with
  | rest short => exact short
  | frame whole later ih => exact ih

/-- The rest is shorter than the longest message. -/
theorem Frames.length_rest_lt (h : Frames s ms rest) : rest.length < headerLength + 65535 := by
  have short := frameLength?_eq_none_iff.1 h.frameLength?_rest
  have declared := declaredLength_lt rest
  omega

/-- More bytes are cut after the rest; the messages before them stay. -/
theorem Frames.append {more : Bytes} {ms' : List Bytes} {rest' : Bytes} (h : Frames s ms rest)
    (later : Frames (rest ++ more) ms' rest') : Frames (s ++ more) (ms ++ ms') rest' := by
  induction h with
  | rest => exact later
  | frame whole _ ih =>
    rw [List.append_assoc, List.cons_append]
    exact .frame whole (ih later)

/-! ### Taking messages off the front -/

theorem drain_of_none {peer : Endpoint} (h : frameLength? s = none) : drain peer s = ([], s) := by
  rw [drain]
  split
  · rfl
  next n hn => rw [h] at hn; contradiction

theorem drain_of_some {peer : Endpoint} {n : Nat} (h : frameLength? s = some n) :
    drain peer s = ((respond (s.take n) peer).toList ++ (drain peer (s.drop n)).1,
      (drain peer (s.drop n)).2) := by
  rw [drain]
  split
  next hn => rw [h] at hn; contradiction
  next n' hn =>
    obtain rfl := Option.some.inj (h.symm.trans hn)
    rfl

/-- What is taken off the front are the messages of the stream; those that `respond` answers are
answered in their order, and all others are dropped. -/
theorem Frames.drain_eq (peer : Endpoint) (h : Frames s ms rest) :
    drain peer s = (ms.filterMap fun m => respond m peer, rest) := by
  induction h with
  | rest short => exact drain_of_none short
  | @frame m s rest ms whole later ih =>
    rw [drain_of_some (whole.frameLength?_append s), List.take_left, List.drop_left, ih,
      List.filterMap_cons]
    cases respond m peer <;> rfl

end ServerTrials.Binding
