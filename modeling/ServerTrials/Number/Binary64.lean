/-!
Finite binary64 numbers, held exactly.

A number is `± mantissa · 2 ^ exponent` with a mantissa below `2 ^ 53`; every operation is exact
arithmetic on natural numbers followed by one rounding to the nearest number of the format, a half
going to the even neighbour. Infinity and NaN have no value here: an operation that leaves the range
answers `none`.
-/

namespace ServerTrials

/-- A finite binary64 number, `± mantissa · 2 ^ exponent`. -/
structure Binary64 where
  negative : Bool
  mantissa : Nat
  exponent : Int
  deriving DecidableEq, Repr

namespace Binary64

/-- The first number beyond the mantissas, `2 ^ 53`. -/
def mantissaBound : Nat := 9007199254740992

/-- The least mantissa with all its bits, `2 ^ 52`; only the finest grid has smaller ones. -/
def normalBound : Nat := 4503599627370496

/-- The exponent of the finest grid of the format. -/
def minExponent : Int := -1074

/-- The exponent of the coarsest grid of the format. -/
def maxExponent : Int := 971

/-- The zero of the given sign. -/
def zero (negative : Bool) : Binary64 := ⟨negative, 0, minExponent⟩

/-- The quotient rounded to an integer, a half to the even neighbour. -/
def divRound (num den : Nat) : Nat :=
  let q := num / den
  let r := num % den
  if 2 * r < den then q else if den < 2 * r then q + 1 else q + q % 2

/-- The numerator of `num / den` counted in units of `2 ^ e`. -/
def scaleNum (num : Nat) (e : Int) : Nat := num * Nat.pow 2 (-e).toNat

/-- The denominator of `num / den` counted in units of `2 ^ e`. -/
def scaleDen (den : Nat) (e : Int) : Nat := den * Nat.pow 2 e.toNat

/-- The grid on which `num / den` has 53 significant bits, or the finest one if that is coarser. -/
def gridExponent (num den : Nat) : Int :=
  let guess : Int := (num.log2 : Int) - (den.log2 : Int) - 52
  let exact := if scaleNum num guess / scaleDen den guess < normalBound then guess - 1 else guess
  max exact minExponent

/-- The number of the format nearest to `± num / den`; none beyond the largest finite one. -/
def round? (negative : Bool) (num den : Nat) : Option Binary64 :=
  if num = 0 then some (zero negative)
  else
    let e := gridExponent num den
    let m := divRound (scaleNum num e) (scaleDen den e)
    let (m, e) := if m = mantissaBound then (normalBound, e + 1) else (m, e)
    if maxExponent < e then none else some ⟨negative, m, e⟩

/-- The numerator of the magnitude. -/
def num (x : Binary64) : Nat := scaleDen x.mantissa x.exponent

/-- The denominator of the magnitude. -/
def den (x : Binary64) : Nat := scaleNum 1 x.exponent

/-- The rounded product. -/
def mul? (x y : Binary64) : Option Binary64 :=
  round? (x.negative != y.negative) (x.num * y.num) (x.den * y.den)

/-- The rounded quotient; none by zero. -/
def div? (x y : Binary64) : Option Binary64 :=
  if y.mantissa = 0 then none
  else round? (x.negative != y.negative) (x.num * y.den) (x.den * y.num)

/-- The number nearest to `10 ^ k`. -/
def tenPow? (k : Nat) : Option Binary64 := round? false (Nat.pow 10 k) 1

/-- The largest power of ten by which a number is scaled in one step. -/
def maxTenPow : Nat := 308

/-- The number divided by `10 ^ k`, in steps of at most `10 ^ 308`, each step rounded. -/
def scaleDown? (x : Binary64) (k : Nat) : Option Binary64 :=
  if k ≤ maxTenPow then do x.div? (← tenPow? k)
  else if x.mantissa = 0 then some x
  else do scaleDown? (← x.div? (← tenPow? maxTenPow)) (k - maxTenPow)
termination_by k
decreasing_by simp_all only [maxTenPow]; omega

/-- The number multiplied by `10 ^ k`, rounded once; a zero stays zero whatever the power. -/
def scaleUp? (x : Binary64) (k : Nat) : Option Binary64 :=
  if k ≤ maxTenPow then do x.mul? (← tenPow? k)
  else if x.mantissa = 0 then some x
  else none

/-- The decimal `± significand · 10 ^ exponent`: the significand is rounded first, then its product
or quotient with the power of ten. -/
def ofDecimal? (negative : Bool) (significand : Nat) (exponent : Int) : Option Binary64 := do
  let x ← round? negative significand 1
  if 0 ≤ exponent then x.scaleUp? exponent.toNat else x.scaleDown? (-exponent).toNat

/-- The same number with the sign of zero dropped. -/
def unsignedZero (x : Binary64) : Binary64 := if x.mantissa = 0 then zero false else x

end Binary64
end ServerTrials
