import ServerTrials.Number.Binary64

/-!
The decimal text of a binary64 number: the fewest digits that read back as the number, and of those
the nearest to it.

A number stands for the interval of reals that round to it. For one, two, … seventeen digits the two
neighbours of the number on that decimal grid are tried; the first grid with a neighbour inside the
interval gives the digits. All comparisons are between natural numbers.
-/

namespace ServerTrials

/-- The decimal `digits · 10 ^ exponent`. -/
structure Decimal where
  digits : Nat
  exponent : Int
  deriving DecidableEq, Repr

namespace Binary64

/-- How many decimal digits a natural number has. -/
def digitCount (n : Nat) : Nat := (Nat.toDigits 10 n).length

/-- The power of ten of the leading digit of `num / den`. -/
def leadingPower (num den : Nat) : Int :=
  let guess : Int := (digitCount num : Int) - (digitCount den : Int)
  if den * Nat.pow 10 guess.toNat ≤ num * Nat.pow 10 (-guess).toNat then guess else guess - 1

/-- Whether the decimal rounds to the positive number `x`. Both ends of the interval belong to it
exactly if the mantissa is even; below a power of two the spacing halves. -/
def rounds (x : Binary64) (d : Decimal) : Bool :=
  let quarters := 4 * d.digits * Nat.pow 10 d.exponent.toNat * x.den
  let unit := Nat.pow 10 (-d.exponent).toNat * scaleDen 1 x.exponent
  let below := if x.mantissa = normalBound && minExponent < x.exponent then 1 else 2
  let low := (4 * x.mantissa - below) * unit
  let high := (4 * x.mantissa + 2) * unit
  if x.mantissa % 2 = 0 then low ≤ quarters && quarters ≤ high
  else low < quarters && quarters < high

/-- The neighbours of `x` with `n` digits that round to it, the nearer first, the even one at a tie;
a neighbour with one digit more is a power of ten, and its last zero moves into the exponent. -/
def neighbours (x : Binary64) (n : Nat) : List Decimal :=
  let k := leadingPower x.num x.den - (n : Int) + 1
  let num := x.num * Nat.pow 10 (-k).toNat
  let den := x.den * Nat.pow 10 k.toNat
  let q := num / den
  let r := num % den
  let upperFirst := den < 2 * r || (den == 2 * r && q % 2 == 1)
  let order := if upperFirst then [q + 1, q] else [q, q + 1]
  let decimal (d : Nat) : Decimal := if d = Nat.pow 10 n then ⟨d / 10, k + 1⟩ else ⟨d, k⟩
  (order.map decimal).filter x.rounds

/-- The shortest decimal that reads back as the positive number `x`, the nearest of those. -/
def shortest (x : Binary64) : Decimal :=
  match (List.range 17).findSome? fun n => (x.neighbours (n + 1)).head? with
  | some d => d
  | none => ⟨0, 0⟩

end Binary64

namespace Decimal

/-- Positional notation serves leading digits from `10 ^ -5` up to, not including, `10 ^ 16`. -/
def positional (leading : Int) : Bool := -5 ≤ leading && leading < 16

/-- The text of a non-zero decimal: positional with a fraction point where `positional` holds, else
one digit, the rest after a point, and a signed exponent of ten. -/
def text (d : Decimal) : String :=
  let ds := Nat.toDigits 10 d.digits
  let leading := d.exponent + (ds.length : Int) - 1
  if positional leading then
    if 0 ≤ d.exponent then String.ofList (ds ++ List.replicate d.exponent.toNat '0') ++ ".0"
    else if 0 ≤ leading then
      String.ofList (ds.take (leading.toNat + 1)) ++ "." ++ String.ofList (ds.drop (leading.toNat + 1))
    else "0." ++ String.ofList (List.replicate (-leading - 1).toNat '0' ++ ds)
  else
    let sign := if leading < 0 then "-" else "+"
    let fraction := if ds.length ≤ 1 then "" else "." ++ String.ofList (ds.drop 1)
    String.ofList (ds.take 1) ++ fraction ++ "e" ++ sign ++ toString leading.natAbs

end Decimal

/-- The text of a binary64 number; both zeros show their sign and one decimal place. -/
def Binary64.text (x : Binary64) : String :=
  let magnitude := if x.mantissa = 0 then "0.0" else x.shortest.text
  if x.negative then "-" ++ magnitude else magnitude

end ServerTrials
