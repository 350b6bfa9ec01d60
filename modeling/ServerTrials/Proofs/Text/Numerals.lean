import Mathlib.Data.List.DropRight
import Mathlib.Data.Nat.Digits.Defs
import ServerTrials.Text.Blank
import ServerTrials.Text.Numeral

/-!
Texts that spell a number.

A numeral is an optional plus sign and then one or more decimal digits; leading zeros are no matter. A text
spells a number if it is a numeral of it once the blanks around it are gone. Both are conditions on the
characters alone, and trimming and scanning meet them: `natBelow?_trim_eq_some_iff` says that the number
which is found is the one that the text spells, and that none is found only if the text spells no number
below the bound.
-/

namespace ServerTrials.Text

/-! ### Blanks around a text -/

/-- The second text is the first one without the blanks around it. -/
def Trims (s t : String) : Prop :=
  ∃ before after, s.toList = before ++ (t.toList ++ after) ∧
    (∀ c ∈ before, isBlank c = true) ∧ (∀ c ∈ after, isBlank c = true) ∧
    (∀ c ∈ t.toList.head?, isBlank c = false) ∧ ∀ c ∈ t.toList.getLast?, isBlank c = false

variable {s t text : String} {bound n : Nat} {cs ds before after : List Char} {c : Char}

/-- Nothing is left of blanks before a text. -/
theorem dropWhile_isBlank_append (blank : ∀ c ∈ before, isBlank c = true)
    (first : ∀ c ∈ cs.head?, isBlank c = false) : (before ++ cs).dropWhile isBlank = cs := by
  rw [List.dropWhile_append_of_pos blank]
  cases cs with
  | nil => rfl
  | cons c cs => exact List.dropWhile_cons_of_neg (by simp [first c rfl])

/-- Nothing is left of blanks after a text: it is the same with the text reversed. -/
theorem dropTrailing_append (last : ∀ c ∈ cs.getLast?, isBlank c = false)
    (blank : ∀ c ∈ after, isBlank c = true) : dropTrailing (cs ++ after) = cs := by
  rw [dropTrailing, List.reverse_append, dropWhile_isBlank_append, List.reverse_reverse]
  · exact fun c hc => blank c (List.mem_reverse.1 hc)
  · rwa [List.head?_reverse]

theorem Trims.eq_trim (h : Trims s t) : trim s = t := by
  obtain ⟨before, after, split, blankBefore, blankAfter, first, last⟩ := h
  rw [trim, split]
  by_cases empty : t.toList = []
  · have all : ∀ c ∈ before ++ (t.toList ++ after), isBlank c = true := by
      rw [empty, List.nil_append]
      exact List.forall_mem_append.2 ⟨blankBefore, blankAfter⟩
    rw [List.dropWhile_eq_nil_iff.2 all, ← String.ofList_toList (s := t), empty]
    rfl
  · have head : (t.toList ++ after).head? = t.toList.head? := List.head?_append_of_ne_nil _ empty
    rw [dropWhile_isBlank_append blankBefore (head ▸ first), dropTrailing_append last blankAfter,
      String.ofList_toList]

/-- What dropping blanks stops at is no blank. -/
theorem isBlank_head?_dropWhile (hc : c ∈ (cs.dropWhile isBlank).head?) : isBlank c = false := by
  have stop := List.head?_dropWhile_not isBlank cs
  rw [Option.mem_def.1 hc] at stop
  exact stop

theorem trims_trim (s : String) : Trims s (trim s) := by
  let rest := s.toList.dropWhile isBlank
  have trimmed : (trim s).toList = rest.rdropWhile isBlank := String.toList_ofList
  refine ⟨s.toList.takeWhile isBlank, rest.rtakeWhile isBlank, ?_, fun c hc => List.mem_takeWhile_imp hc,
    fun c hc => List.mem_rtakeWhile_imp hc, fun c hc => ?_, fun c hc => ?_⟩
  · rw [trimmed, List.rdropWhile_append_rtakeWhile, List.takeWhile_append_dropWhile]
  · obtain ⟨blanks, split⟩ := List.rdropWhile_prefix isBlank rest
    rw [trimmed, Option.mem_def] at hc
    have head : rest.head? = some c := by
      rw [← split, List.head?_append, hc]
      rfl
    exact isBlank_head?_dropWhile head
  · rw [trimmed, List.rdropWhile, List.getLast?_reverse] at hc
    exact isBlank_head?_dropWhile hc

/-! ### Numerals -/

/-- The characters are one or more decimal digits, which stand for the number. -/
def Denotes (ds : List Char) (n : Nat) : Prop :=
  ds ≠ [] ∧ (∀ c ∈ ds, c.isDigit = true) ∧
    n = Nat.ofDigits 10 (ds.map fun c => c.toNat - '0'.toNat).reverse

/-- The text is an optional plus sign and then the digits of the number. -/
def IsNumeral (s : String) (n : Nat) : Prop :=
  ∃ ds, (s.toList = ds ∨ s.toList = '+' :: ds) ∧ Denotes ds n

theorem not_denotes_plus : ¬ Denotes ('+' :: ds) n := fun h =>
  absurd (h.2.1 '+' List.mem_cons_self) (by decide)

theorem digitsValue_eq_ofDigits (ds : List Char) :
    digitsValue ds = Nat.ofDigits 10 (ds.map fun c => c.toNat - '0'.toNat).reverse := by
  induction ds using List.reverseRecOn with
  | nil => rfl
  | append_singleton ds c ih =>
    have value : digitsValue (ds ++ [c]) = digitsValue ds * 10 + (c.toNat - '0'.toNat) := by
      rw [digitsValue, List.foldl_append]
      rfl
    rw [value, ih, List.map_append, List.reverse_append, List.map_singleton, List.reverse_singleton,
      List.singleton_append, Nat.ofDigits_cons, Nat.add_comm, Nat.mul_comm]

theorem scan_eq_some_iff :
    (if ds ≠ [] ∧ ds.all Char.isDigit ∧ digitsValue ds < bound then some (digitsValue ds) else none) =
      some n ↔ Denotes ds n ∧ n < bound := by
  rw [Option.ite_none_right_eq_some, Option.some.injEq, List.all_eq_true, Denotes,
    ← digitsValue_eq_ofDigits]
  constructor
  · rintro ⟨⟨some, digits, small⟩, rfl⟩
    exact ⟨⟨some, digits, rfl⟩, small⟩
  · rintro ⟨⟨some, digits, rfl⟩, small⟩
    exact ⟨⟨some, digits, small⟩, rfl⟩

theorem natBelow?_eq_some_iff : natBelow? bound s = some n ↔ IsNumeral s n ∧ n < bound := by
  simp only [natBelow?, scan_eq_some_iff, IsNumeral]
  refine and_congr_left fun _ => ?_
  split
  next ds plus =>
    rw [plus]
    refine ⟨fun h => ⟨ds, .inr rfl, h⟩, ?_⟩
    rintro ⟨ds', rfl | same, h⟩
    · exact absurd h not_denotes_plus
    · rwa [(List.cons.inj same).2]
  next plain =>
    refine ⟨fun h => ⟨_, .inl rfl, h⟩, ?_⟩
    rintro ⟨ds, rfl | plus, h⟩
    · exact h
    · exact absurd plus (plain ds)

/-- The text is a numeral of the number, with or without blanks around it. -/
def Spells (text : String) (n : Nat) : Prop := ∃ t, Trims text t ∧ IsNumeral t n

/-- What is read is the number that the text spells, if that is below the bound. -/
theorem natBelow?_trim_eq_some_iff :
    natBelow? bound (trim text) = some n ↔ Spells text n ∧ n < bound := by
  rw [natBelow?_eq_some_iff]
  constructor
  · rintro ⟨numeral, small⟩
    exact ⟨⟨_, trims_trim text, numeral⟩, small⟩
  · rintro ⟨⟨t, trims, numeral⟩, small⟩
    rw [trims.eq_trim]
    exact ⟨numeral, small⟩

end ServerTrials.Text
