import ServerTrials.Client.Utility.Real

/-!
Reckoning with binary64 numbers: exact results, rounded once. A result beyond the largest number is none.
-/

namespace ServerTrials.Binary64

/-- The numerator with its sign. -/
def signedNum (x : Binary64) : Int := if x.negative then -(x.num : Int) else x.num

/-- The number nearest to a quotient, without a sign of zero. -/
def ofRatio? (num : Int) (den : Nat) : Option Binary64 :=
  (round? (num < 0) num.natAbs den).map unsignedZero

/-- The number nearest to an integer, zero beyond the largest one. -/
def ofInt (n : Int) : Binary64 := (ofRatio? n 1).getD (zero false)

/-- The rounded sum. -/
def add? (x y : Binary64) : Option Binary64 :=
  ofRatio? (x.signedNum * y.den + y.signedNum * x.den) (x.den * y.den)

/-- The same magnitude with the other sign. -/
def negated (x : Binary64) : Binary64 := unsignedZero { x with negative := !x.negative }

/-- The rounded difference. -/
def sub? (x y : Binary64) : Option Binary64 := x.add? y.negated

/-- The integer part. -/
def whole (x : Binary64) : Int := x.signedNum.tdiv x.den

/-- Whether a number is zero. -/
def isZero (x : Binary64) : Bool := x.mantissa = 0

/-- Whether a number is an integer. -/
def isWhole (x : Binary64) : Bool := x.num % x.den = 0

/-- What a division to an integer leaves over, with the sign of the first number; none by zero. -/
def rem? (x y : Binary64) : Option Binary64 :=
  if y.isZero then none
  else
    let a := x.signedNum * y.den
    let b := (y.num * x.den : Int)
    ofRatio? (Int.tmod a b) (x.den * y.den)

/-- The largest exponent of a power that is reckoned. -/
def largestPower : Nat := 2000

/-- The rounded root. -/
def sqrt? (x : Binary64) : Option Binary64 :=
  if x.negative && !x.isZero then none
  else
    let scale := Nat.pow 4 600
    ofRatio? (Nat.sqrt (x.num * scale / x.den)) (Nat.pow 2 600)

/-- The rounded power; exponents are integers or a half. -/
def pow? (x y : Binary64) : Option Binary64 :=
  let k := y.whole
  if !y.isWhole then
    if y.num * 2 = y.den then x.sqrt? else none
  else if largestPower < k.natAbs then
    if x.num < x.den && 0 ≤ k || x.den < x.num && k < 0 then some (zero false) else none
  else
    let n := Nat.pow x.num k.natAbs
    let d := Nat.pow x.den k.natAbs
    let sign : Int := if x.negative && k.natAbs % 2 = 1 then -1 else 1
    if 0 ≤ k then ofRatio? (sign * n) d
    else if n = 0 then none
    else ofRatio? (sign * d) n

/-- The order of two numbers. -/
def order (x y : Binary64) : Ordering := compare (x.signedNum * y.den) (y.signedNum * x.den)

end ServerTrials.Binary64
