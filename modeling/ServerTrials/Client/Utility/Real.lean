import ServerTrials.Number.Binary64

/-!
Reading real numbers from texts, and writing them with a given number of digits: with fixed places, with an
exponent, in the shorter of the two ways, or in base sixteen. A half goes to the even digit.
-/

namespace ServerTrials.Client.Real

/-- The digits of a number, with zeros in front up to a length. -/
def padded (length n : Nat) : List Char :=
  let ds := Nat.toDigits 10 n
  List.replicate (length - ds.length) '0' ++ ds

/-- A magnitude with fixed places; the point may stand even before no places. -/
def fixed (num den places : Nat) (point : Bool) : String :=
  let ds := padded (places + 1) (Binary64.divRound (num * Nat.pow 10 places) den)
  let whole := ds.take (ds.length - places)
  let fraction := ds.drop (ds.length - places)
  String.ofList (whole ++ (if point || 0 < places then ['.'] else []) ++ fraction)

/-- How many decimal digits a natural number has. -/
def digitCount (n : Nat) : Nat := (Nat.toDigits 10 n).length

/-- The power of ten of the leading digit of `num / den`, which is not zero. -/
def leadingPower (num den : Nat) : Int :=
  let guess : Int := (digitCount num : Int) - (digitCount den : Int)
  if den * Nat.pow 10 guess.toNat ≤ num * Nat.pow 10 (-guess).toNat then guess else guess - 1

/-- The leading digits of a magnitude, one more than `places`, and the power of the first. -/
def scientific (num den places : Nat) : Nat × Int :=
  if num = 0 then (0, 0)
  else
    let k := leadingPower num den
    let shift := (places : Int) - k
    let m := Binary64.divRound (num * Nat.pow 10 shift.toNat) (den * Nat.pow 10 (-shift).toNat)
    if m = Nat.pow 10 (places + 1) then (m / 10, k + 1) else (m, k)

/-- An exponent of at least two digits. -/
def exponentText (k : Int) (capital : Bool) : String :=
  (if capital then "E" else "e") ++ (if k < 0 then "-" else "+") ++ String.ofList (padded 2 k.natAbs)

/-- A magnitude with an exponent. -/
def exponential (num den places : Nat) (point capital : Bool) : String :=
  let (m, k) := scientific num den places
  let ds := padded (places + 1) m
  String.ofList (ds.take 1 ++ (if point || 0 < places then ['.'] else []) ++ ds.drop 1)
    ++ exponentText k capital

/-- The text without zeros at the end of its fraction. -/
def dropZeros (s : String) : String :=
  if s.toList.contains '.' then
    let cs := s.toList.reverse.dropWhile (· == '0')
    String.ofList ((if cs.head? == some '.' then cs.drop 1 else cs).reverse)
  else s

/-- A magnitude with so many digits, written with an exponent if that is very small or does not fit the
digits; zeros at the end of a fraction are dropped unless they are kept. -/
def general (num den digits : Nat) (keep capital : Bool) : String :=
  let digits := max digits 1
  let k := (scientific num den (digits - 1)).2
  if k < -4 || (digits : Int) ≤ k then
    let (m, k) := scientific num den (digits - 1)
    let ds := padded digits m
    let body := String.ofList (ds.take 1 ++ (if keep || 1 < digits then ['.'] else []) ++ ds.drop 1)
    (if keep then body else dropZeros body) ++ exponentText k capital
  else
    let body := fixed num den ((digits : Int) - 1 - k).toNat keep
    if keep then body else dropZeros body

/-- The decimal number at the front of a text: its sign, its digits as a number, its power of ten, and what
follows it. -/
def takeDecimal (cs : List Char) : Option (Bool × Nat × Int × List Char) :=
  let (negative, cs) := match cs with
    | '-' :: r => (true, r)
    | '+' :: r => (false, r)
    | r => (false, r)
  let whole := cs.takeWhile Char.isDigit
  let cs := cs.drop whole.length
  let (fraction, cs) := match cs with
    | '.' :: r => (r.takeWhile Char.isDigit, r.dropWhile Char.isDigit)
    | r => ([], r)
  if whole.isEmpty && fraction.isEmpty then none
  else
    let value := (whole ++ fraction).foldl (fun n c => n * 10 + (c.toNat - '0'.toNat)) 0
    let plain := (negative, value, -(fraction.length : Int), cs)
    match cs with
    | e :: r =>
      if e == 'e' || e == 'E' then
        let (down, r) := match r with
          | '-' :: r => (true, r)
          | '+' :: r => (false, r)
          | r => (false, r)
        let ds := r.takeWhile Char.isDigit
        if ds.isEmpty then some plain
        else
          let k : Int := (ds.foldl (fun n c => n * 10 + (c.toNat - '0'.toNat)) 0 : Nat)
          some (negative, value, -(fraction.length : Int) + (if down then -k else k), r.drop ds.length)
      else some plain
    | [] => some plain

/-! ### Numbers of other sizes -/

/-- A kind of binary numbers: the bits of a mantissa and how many of them stand before the point in base
sixteen, and the least and the largest exponent. -/
structure Kind where
  bits : Nat
  lead : Nat
  least : Int
  most : Int
  deriving DecidableEq, Repr

/-- Numbers of eight bytes. -/
def Kind.double : Kind := ⟨53, 1, -1074, 971⟩

/-- Numbers of ten bytes. -/
def Kind.extended : Kind := ⟨64, 4, -16445, 16320⟩

/-- A magnitude `mantissa · 2 ^ exponent`. -/
structure Magnitude where
  mantissa : Nat
  exponent : Int
  deriving DecidableEq, Repr

/-- The numerator of a magnitude. -/
def Magnitude.num (m : Magnitude) : Nat := m.mantissa * Nat.pow 2 m.exponent.toNat

/-- The denominator of a magnitude. -/
def Magnitude.den (m : Magnitude) : Nat := Nat.pow 2 (-m.exponent).toNat

/-- The magnitude of a kind that is nearest to `num / den`; none beyond the largest one. -/
def Kind.round? (k : Kind) (num den : Nat) : Option Magnitude :=
  if num = 0 then some ⟨0, k.least⟩
  else
    let scaled (e : Int) : Nat × Nat := (num * Nat.pow 2 (-e).toNat, den * Nat.pow 2 e.toNat)
    let guess : Int := (num.log2 : Int) - (den.log2 : Int) - (k.bits - 1 : Nat)
    let (n, d) := scaled guess
    let e := max (if n / d < Nat.pow 2 (k.bits - 1) then guess - 1 else guess) k.least
    let (n, d) := scaled e
    let m := Binary64.divRound n d
    let (m, e) := if m = Nat.pow 2 k.bits then (m / 2, e + 1) else (m, e)
    if k.most < e then none else some ⟨m, e⟩

/-- Whether a magnitude other than zero is so small that bits of it were lost. -/
def Kind.losesBits (k : Kind) (num den : Nat) (m : Magnitude) : Bool :=
  num ≠ 0 && m.mantissa < Nat.pow 2 (k.bits - 1) && m.num * den ≠ num * m.den

/-- A number as a text spells it: its sign, and its digits times a power of a base. -/
structure Spelled where
  negative : Bool
  digits : Nat
  base : Nat
  power : Int
  deriving DecidableEq, Repr

/-- The numerator of a number; powers that are out of all ranges count as others of that sort. -/
def Spelled.num (s : Spelled) : Nat := s.digits * Nat.pow s.base (min s.power 20000).toNat

/-- The denominator of a number. -/
def Spelled.den (s : Spelled) : Nat := Nat.pow s.base (min (-s.power) 20000).toNat

/-- The value of a digit in base sixteen. -/
def hexDigit? (c : Char) : Option Nat :=
  if c.isDigit then some (c.toNat - '0'.toNat)
  else if 'a' ≤ c && c ≤ 'f' then some (c.toNat - 'a'.toNat + 10)
  else if 'A' ≤ c && c ≤ 'F' then some (c.toNat - 'A'.toNat + 10)
  else none

/-- The number that digits in base sixteen spell, with a point and a power of two, and what follows it. -/
def takeHexadecimal (negative : Bool) (cs : List Char) : Option (Spelled × List Char) :=
  let isHex (c : Char) : Bool := (hexDigit? c).isSome
  let whole := cs.takeWhile isHex
  let rest := cs.drop whole.length
  let (fraction, rest) := match rest with
    | '.' :: r => (r.takeWhile isHex, r.dropWhile isHex)
    | r => ([], r)
  if whole.isEmpty && fraction.isEmpty then none
  else
    let digits := ((whole ++ fraction).filterMap hexDigit?).foldl (fun n d => n * 16 + d) 0
    let scale : Int := -(4 * fraction.length : Nat)
    let plain := (⟨negative, digits, 2, scale⟩, rest)
    match rest with
    | p :: r =>
      if p == 'p' || p == 'P' then
        let (down, r) := match r with
          | '-' :: r => (true, r)
          | '+' :: r => (false, r)
          | r => (false, r)
        let ds := r.takeWhile Char.isDigit
        let k : Int := (ds.foldl (fun n c => n * 10 + (c.toNat - '0'.toNat)) 0 : Nat)
        if ds.isEmpty then some plain
        else some (⟨negative, digits, 2, scale + (if down then -k else k)⟩, r.drop ds.length)
      else some plain
    | [] => some plain

/-- The number at the front of a text, in base ten or sixteen, and what follows it. -/
def takeNumber (cs : List Char) : Option (Spelled × List Char) :=
  let decimal := (takeDecimal cs).map fun (negative, digits, power, rest) => (⟨negative, digits, 10, power⟩, rest)
  let (negative, body) := match cs with
    | '-' :: r => (true, r)
    | '+' :: r => (false, r)
    | r => (false, r)
  match body with
  | '0' :: x :: rest => if x == 'x' || x == 'X' then (takeHexadecimal negative rest).or decimal else decimal
  | _ => decimal

/-- A magnitude in base sixteen, with all places it needs or as many as are asked for. -/
def hexadecimal (k : Kind) (m : Magnitude) (places : Option Nat) (point capital : Bool) : String :=
  let all := (k.bits - k.lead) / 4
  let fine := 4 * (all - min all (places.getD all))
  let shown := Binary64.divRound m.mantissa (Nat.pow 2 fine)
  let unit := 4 * all - fine
  let ds := Nat.toDigits 16 (shown % Nat.pow 2 unit)
  let fraction := if unit = 0 then [] else List.replicate (unit / 4 - ds.length) '0' ++ ds
  let fraction := match places with
    | some p => fraction ++ List.replicate (p - fraction.length) '0'
    | none => (fraction.reverse.dropWhile (· == '0')).reverse
  let exponent : Int := if m.mantissa = 0 then 0 else m.exponent + (4 * all : Nat)
  let text := Nat.toDigits 16 (shown / Nat.pow 2 unit) ++ (if point || !fraction.isEmpty then ['.'] else [])
    ++ fraction ++ 'p' :: (if exponent < 0 then '-' else '+') :: Nat.toDigits 10 exponent.natAbs
  let text := '0' :: 'x' :: text
  String.ofList (if capital then text.map Char.toUpper else text)

/-- The number of the format nearest to a decimal. -/
def nearest (negative : Bool) (value : Nat) (power : Int) : Binary64 :=
  let power := max (-400) (min power 400)
  (Binary64.round? negative (value * Nat.pow 10 power.toNat) (Nat.pow 10 (-power).toNat)).getD
    (Binary64.zero negative)

end ServerTrials.Client.Real
