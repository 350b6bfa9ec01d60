import ServerTrials.Number.Binary64

/-!
JSON values, as option values and as answers.

A number keeps the class it was written in: an integer is never equal to a fraction, whatever their
values. Two values are the same (`==`) if they agree after the sign of every zero fraction is
dropped; the equality of Lean (`=`) also sees that sign, because it shows in the text.
-/

namespace ServerTrials

/-- A JSON number: an integer, or a number written with a fraction or an exponent or out of the range
of integers. -/
inductive Json.Number where
  | integer (value : Int)
  | fraction (value : Binary64)
  deriving DecidableEq, Repr

/-- A JSON value. The members of an object read from text have distinct names in rising order. -/
inductive Json where
  | null
  | bool (value : Bool)
  | number (value : Json.Number)
  | string (value : String)
  | array (items : List Json)
  | object (members : List (String × Json))
  deriving Repr

namespace Json

/-! ### Equality -/

mutual

/-- Decides the equality of two values. -/
def decEq : (a b : Json) → Decidable (a = b)
  | .null, .null => isTrue rfl
  | .bool a, .bool b => decidable_of_iff (a = b) (by simp)
  | .number a, .number b => decidable_of_iff (a = b) (by simp)
  | .string a, .string b => decidable_of_iff (a = b) (by simp)
  | .array xs, .array ys =>
    match decEqItems xs ys with
    | isTrue h => isTrue (h ▸ rfl)
    | isFalse h => isFalse fun e => h (Json.array.inj e)
  | .object xs, .object ys =>
    match decEqMembers xs ys with
    | isTrue h => isTrue (h ▸ rfl)
    | isFalse h => isFalse fun e => h (Json.object.inj e)
  | .null, .bool _ | .null, .number _ | .null, .string _ | .null, .array _ | .null, .object _
  | .bool _, .null | .bool _, .number _ | .bool _, .string _ | .bool _, .array _ | .bool _, .object _
  | .number _, .null | .number _, .bool _ | .number _, .string _ | .number _, .array _
  | .number _, .object _
  | .string _, .null | .string _, .bool _ | .string _, .number _ | .string _, .array _
  | .string _, .object _
  | .array _, .null | .array _, .bool _ | .array _, .number _ | .array _, .string _
  | .array _, .object _
  | .object _, .null | .object _, .bool _ | .object _, .number _ | .object _, .string _
  | .object _, .array _ => isFalse (by simp)

/-- Decides the equality of two lists of values. -/
def decEqItems : (xs ys : List Json) → Decidable (xs = ys)
  | [], [] => isTrue rfl
  | x :: xs, y :: ys =>
    match decEq x y, decEqItems xs ys with
    | isTrue h, isTrue hs => isTrue (h ▸ hs ▸ rfl)
    | isFalse h, _ => isFalse fun e => h (List.cons.inj e).1
    | _, isFalse hs => isFalse fun e => hs (List.cons.inj e).2
  | [], _ :: _ | _ :: _, [] => isFalse (by simp)

/-- Decides the equality of two lists of members. -/
def decEqMembers : (xs ys : List (String × Json)) → Decidable (xs = ys)
  | [], [] => isTrue rfl
  | (k, x) :: xs, (l, y) :: ys =>
    if hk : k = l then
      match decEq x y, decEqMembers xs ys with
      | isTrue h, isTrue hs => isTrue (hk ▸ h ▸ hs ▸ rfl)
      | isFalse h, _ => isFalse fun e => h (Prod.mk.inj (List.cons.inj e).1).2
      | _, isFalse hs => isFalse fun e => hs (List.cons.inj e).2
    else isFalse fun e => hk (Prod.mk.inj (List.cons.inj e).1).1
  | [], _ :: _ | _ :: _, [] => isFalse (by simp)

end

instance : DecidableEq Json := decEq

/-- The number with the sign of zero dropped. -/
def Number.canonical : Number → Number
  | .integer n => .integer n
  | .fraction x => .fraction x.unsignedZero

mutual

/-- The value with the sign of every zero fraction dropped. -/
def canonical : Json → Json
  | .number n => .number n.canonical
  | .array items => .array (canonicalItems items)
  | .object members => .object (canonicalMembers members)
  | .null => .null
  | .bool b => .bool b
  | .string s => .string s

/-- The items with the sign of every zero fraction dropped. -/
def canonicalItems : List Json → List Json
  | [] => []
  | x :: xs => x.canonical :: canonicalItems xs

/-- The members with the sign of every zero fraction dropped. -/
def canonicalMembers : List (String × Json) → List (String × Json)
  | [] => []
  | (k, x) :: xs => (k, x.canonical) :: canonicalMembers xs

end

/-- Two values are the same if they agree up to the sign of zero. -/
instance : BEq Json := ⟨fun a b => decide (a.canonical = b.canonical)⟩

theorem beq_iff {a b : Json} : (a == b) = true ↔ a.canonical = b.canonical := by
  simp [BEq.beq]

instance : EquivBEq Json where
  rfl := beq_iff.2 rfl
  symm h := beq_iff.2 (beq_iff.1 h).symm
  trans h₁ h₂ := beq_iff.2 ((beq_iff.1 h₁).trans (beq_iff.1 h₂))

/-! ### Reading parts of a value -/

/-- The least integer of 64 bits. -/
def minInt64 : Int := -9223372036854775808

/-- The first integer beyond 64 bits. -/
def int64Bound : Int := 9223372036854775808

/-- The integer of a value, if it is one and fits 64 bits with a sign. -/
def int64? : Json → Option Int
  | .number (.integer n) => if minInt64 ≤ n ∧ n < int64Bound then some n else none
  | _ => none

/-- The text of a string value. -/
def string? : Json → Option String
  | .string s => some s
  | _ => none

/-- The member of that name. -/
def get? (members : List (String × Json)) (name : String) : Option Json :=
  (members.find? fun m => m.1 == name).map (·.2)

/-- Sets a member in a list of rising names, in place of one of the same name. -/
def setMember (name : String) (value : Json) : List (String × Json) → List (String × Json)
  | [] => [(name, value)]
  | m :: ms =>
    if name < m.1 then (name, value) :: m :: ms
    else if m.1 < name then m :: setMember name value ms
    else (name, value) :: ms

instance : Coe String Json := ⟨.string⟩
instance : Coe Bool Json := ⟨.bool⟩
instance : Coe Int Json := ⟨fun n => .number (.integer n)⟩
instance : Coe Nat Json := ⟨fun n => .number (.integer n)⟩

end Json
end ServerTrials
