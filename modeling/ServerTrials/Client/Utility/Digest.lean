import ServerTrials.Client.Utility.Basic

/-!
Programs that write numbers by which texts are told apart.

A text is filled up to whole blocks of 64 bytes, with its length in bits at the end, and every block changes a
state of a few words.
-/

namespace ServerTrials.Client.Utility

namespace Digest

/-! ### Blocks -/

/-- The bytes of a number, the lowest first. -/
def lowBytes : Nat → Nat → List Nat
  | 0, _ => []
  | n + 1, k => k % 256 :: lowBytes n (k / 256)

/-- A text filled up to whole blocks; `highFirst` says how its length is written. -/
def filled (highFirst : Bool) (bytes : List Nat) : List Nat :=
  let zeros := (119 - bytes.length % 64) % 64
  let size := lowBytes 8 (bytes.length * 8)
  bytes ++ 128 :: List.replicate zeros 0 ++ (if highFirst then size.reverse else size)

/-- The parts of a list that have so many elements. -/
def parts (size : Nat) : Nat → List Nat → List (List Nat)
  | 0, _ => []
  | n + 1, xs => if xs.isEmpty then [] else xs.take size :: parts size n (xs.drop size)

/-- The number that bytes are, the highest first. -/
def ofBytes (bs : List Nat) : UInt32 := (bs.foldl (fun n b => n * 256 + b) 0).toUInt32

/-- The words of a block. -/
def words (highFirst : Bool) (block : List Nat) : Array UInt32 :=
  ((parts 4 16 block).map fun p => ofBytes (if highFirst then p else p.reverse)).toArray

/-- The blocks of a text as words. -/
def blocks (highFirst : Bool) (bytes : List Nat) : List (Array UInt32) :=
  let all := filled highFirst bytes
  (parts 64 (all.length / 64 + 1) all).map (words highFirst)

/-- A word turned round to the left. -/
def turned (x : UInt32) (n : UInt32) : UInt32 := (x <<< n) ||| (x >>> (32 - n))

/-- A word of an array, zero beyond its end. -/
def wordAt (a : Array UInt32) (i : Nat) : UInt32 := a[i]?.getD 0

/-- A byte in two digits. -/
def byteDigits (b : Nat) : List Char :=
  let ds := Nat.toDigits 16 b
  List.replicate (2 - ds.length) '0' ++ ds

/-- A state in digits. -/
def digits (highFirst : Bool) (state : List UInt32) : String :=
  String.ofList (state.flatMap fun w =>
    let bytes := lowBytes 4 w.toNat
    (if highFirst then bytes.reverse else bytes).flatMap byteDigits)

/-- The first bits of the fractional part of the root of a number with that exponent. -/
def rootFraction (exponent n : Nat) : UInt32 :=
  let scaled := n * Nat.pow 2 (32 * exponent)
  let step (r bit : Nat) : Nat := if Nat.pow (r + Nat.pow 2 bit) exponent ≤ scaled then r + Nat.pow 2 bit else r
  ((List.range 40).reverse.foldl step 0).toUInt32

/-- The first prime numbers. -/
def primes : List Nat :=
  ((List.range 312).drop 2).filter fun n => ((List.range n).drop 2).all fun d => n % d ≠ 0

/-! ### Four words -/

/-- The numbers that are added in the turns of the digest of four words. -/
def sines : Array UInt32 :=
  #[0xd76aa478, 0xe8c7b756, 0x242070db, 0xc1bdceee, 0xf57c0faf, 0x4787c62a, 0xa8304613, 0xfd469501,
    0x698098d8, 0x8b44f7af, 0xffff5bb1, 0x895cd7be, 0x6b901122, 0xfd987193, 0xa679438e, 0x49b40821,
    0xf61e2562, 0xc040b340, 0x265e5a51, 0xe9b6c7aa, 0xd62f105d, 0x02441453, 0xd8a1e681, 0xe7d3fbc8,
    0x21e1cde6, 0xc33707d6, 0xf4d50d87, 0x455a14ed, 0xa9e3e905, 0xfcefa3f8, 0x676f02d9, 0x8d2a4c8a,
    0xfffa3942, 0x8771f681, 0x6d9d6122, 0xfde5380c, 0xa4beea44, 0x4bdecfa9, 0xf6bb4b60, 0xbebfbc70,
    0x289b7ec6, 0xeaa127fa, 0xd4ef3085, 0x04881d05, 0xd9d4d039, 0xe6db99e5, 0x1fa27cf8, 0xc4ac5665,
    0xf4292244, 0x432aff97, 0xab9423a7, 0xfc93a039, 0x655b59c3, 0x8f0ccc92, 0xffeff47d, 0x85845dd1,
    0x6fa87e4f, 0xfe2ce6e0, 0xa3014314, 0x4e0811a1, 0xf7537e82, 0xbd3af235, 0x2ad7d2bb, 0xeb86d391]

/-- How far words are turned in the turns of the digest of four words. -/
def fourTurns : List (List UInt32) := [[7, 12, 17, 22], [5, 9, 14, 20], [4, 11, 16, 23], [6, 10, 15, 21]]

/-- One block of the digest of four words. -/
def fourBlock (state : List UInt32) (block : Array UInt32) : List UInt32 :=
  match state with
  | [a₀, b₀, c₀, d₀] =>
    let turn (s : UInt32 × UInt32 × UInt32 × UInt32) (i : Nat) :=
      let (a, b, c, d) := s
      let (f, g) := match i / 16 with
        | 0 => ((b &&& c) ||| (~~~b &&& d), i)
        | 1 => ((d &&& b) ||| (~~~d &&& c), (5 * i + 1) % 16)
        | 2 => (b ^^^ c ^^^ d, (3 * i + 5) % 16)
        | _ => (c ^^^ (b ||| ~~~d), 7 * i % 16)
      let far := ((fourTurns[i / 16]?.getD [])[i % 4]?).getD 0
      (d, b + turned (a + f + wordAt sines i + wordAt block g) far, b, c)
    let (a, b, c, d) := (List.range 64).foldl turn (a₀, b₀, c₀, d₀)
    [a₀ + a, b₀ + b, c₀ + c, d₀ + d]
  | s => s

/-- The digest of four words. -/
def four (bytes : List Nat) : String :=
  digits false ((blocks false bytes).foldl fourBlock [0x67452301, 0xefcdab89, 0x98badcfe, 0x10325476])

/-! ### Five words -/

/-- One block of the digest of five words. -/
def fiveBlock (state : List UInt32) (block : Array UInt32) : List UInt32 :=
  match state with
  | [a₀, b₀, c₀, d₀, e₀] =>
    let long := (List.range 64).foldl (fun (w : Array UInt32) i =>
      w.push (turned (wordAt w (i + 13) ^^^ wordAt w (i + 8) ^^^ wordAt w (i + 2) ^^^ wordAt w i) 1)) block
    let turn (s : UInt32 × UInt32 × UInt32 × UInt32 × UInt32) (i : Nat) :=
      let (a, b, c, d, e) := s
      let (f, k) : UInt32 × UInt32 := match i / 20 with
        | 0 => ((b &&& c) ||| (~~~b &&& d), 0x5a827999)
        | 1 => (b ^^^ c ^^^ d, 0x6ed9eba1)
        | 2 => ((b &&& c) ||| (b &&& d) ||| (c &&& d), 0x8f1bbcdc)
        | _ => (b ^^^ c ^^^ d, 0xca62c1d6)
      (turned a 5 + f + e + k + wordAt long i, a, turned b 30, c, d)
    let (a, b, c, d, e) := (List.range 80).foldl turn (a₀, b₀, c₀, d₀, e₀)
    [a₀ + a, b₀ + b, c₀ + c, d₀ + d, e₀ + e]
  | s => s

/-- The digest of five words. -/
def five (bytes : List Nat) : String :=
  digits true ((blocks true bytes).foldl fiveBlock
    [0x67452301, 0xefcdab89, 0x98badcfe, 0x10325476, 0xc3d2e1f0])

/-! ### Eight words -/

/-- One block of the digest of eight words. -/
def eightBlock (constants : Array UInt32) (state : List UInt32) (block : Array UInt32) : List UInt32 :=
  let right (x n : UInt32) : UInt32 := turned x (32 - n)
  let long := (List.range 48).foldl (fun (w : Array UInt32) i =>
    let x := wordAt w (i + 1)
    let y := wordAt w (i + 14)
    w.push (wordAt w i + (right x 7 ^^^ right x 18 ^^^ (x >>> 3)) + wordAt w (i + 9)
      + (right y 17 ^^^ right y 19 ^^^ (y >>> 10)))) block
  let turn (s : List UInt32) (i : Nat) : List UInt32 :=
    match s with
    | [a, b, c, d, e, f, g, h] =>
      let one := h + (right e 6 ^^^ right e 11 ^^^ right e 25) + ((e &&& f) ^^^ (~~~e &&& g))
        + wordAt constants i + wordAt long i
      let two := (right a 2 ^^^ right a 13 ^^^ right a 22) + ((a &&& b) ^^^ (a &&& c) ^^^ (b &&& c))
      [one + two, a, b, c, d + one, e, f, g]
    | s => s
  List.zipWith (· + ·) state ((List.range 64).foldl turn state)

/-- The digest of eight words. -/
def eight (bytes : List Nat) : String :=
  let constants := (primes.map (rootFraction 3)).toArray
  digits true ((blocks true bytes).foldl (eightBlock constants) ((primes.take 8).map (rootFraction 2)))

/-! ### Remainders -/

/-- The remainder of bits by the polynomial of the checksum, one byte further. -/
def crcStep (crc : UInt32) (byte : Nat) : UInt32 :=
  (List.range 8).foldl (fun (c : UInt32) _ =>
    if c &&& 0x80000000 = 0 then c <<< 1 else (c <<< 1) ^^^ 0x04c11db7) (crc ^^^ (byte.toUInt32 <<< 24))

/-- The checksum of a text with its length. -/
def crc (bytes : List Nat) : UInt32 :=
  let size := lowBytes 8 bytes.length
  ~~~((bytes ++ (size.reverse.dropWhile (· == 0)).reverse).foldl crcStep 0)

/-- The sum of bytes in which every step turns the sum round to the right. -/
def sum (bytes : List Nat) : Nat :=
  bytes.foldl (fun s b => (s / 2 + s % 2 * 32768 + b) % 65536) 0

end Digest

/-- The bytes of a text. -/
def bytesIn (text : String) : List Nat := text.toList.map Char.toNat

/-- Writes checksums and lengths of inputs. -/
def cksum : Program := do
  let (_, paths) ← options { letters := "" }
  for path in (if paths.isEmpty then ["-"] else paths) do
    match ← contentOf path with
    | .ok text =>
      put (toString (Digest.crc (bytesIn text)).toNat ++ " " ++ toString text.length
        ++ (if paths.isEmpty then "" else " " ++ path) ++ "\n")
    | .error e => complain (blamePath path e)

/-- Writes sums and numbers of blocks of inputs. -/
def sum : Program := do
  let (given, paths) ← options { letters := "rs" }
  for path in (if paths.isEmpty then ["-"] else paths) do
    match ← contentOf path with
    | .ok text =>
      let name := if paths.isEmpty then "" else " " ++ path
      if has given 's' then
        let s := (bytesIn text).foldl (· + ·) 0
        let r := s % 65536 + s % 4294967296 / 65536
        put (toString (r % 65536 + r / 65536) ++ " " ++ toString ((text.length + 511) / 512) ++ name ++ "\n")
      else
        let n := toString (Digest.sum (bytesIn text))
        put (String.ofList (List.replicate (5 - n.length) '0') ++ n ++ " "
          ++ rightAligned 5 (toString ((text.length + 1023) / 1024)) ++ name ++ "\n")
    | .error e => complain (blamePath path e)

/-! ### Factors -/

/-- The prime factors of a number from a divisor on. -/
def factorsFrom : Nat → Nat → Nat → List Nat
  | 0, _, _ => []
  | fuel + 1, d, n =>
    if n ≤ 1 then []
    else if n < d * d then [n]
    else if n % d = 0 then d :: factorsFrom fuel d (n / d)
    else factorsFrom fuel (d + (if d = 2 then 1 else 2)) n

/-- Writes prime factors. -/
def factor : Program := do
  let (_, operands) ← options { letters := "h" }
  let words ← if operands.isEmpty then do
      match ← takeInput with
      | .ok text => pure ((text.toList.splitBy fun a b => isGap a == isGap b).filterMap fun g =>
          if (g.head?.map isGap).getD true then none else some (String.ofList g))
      | .error e => fail e
    else pure operands
  for w in words do
    match digits? w with
    | some n =>
      put (String.intercalate " " ((toString n ++ ":") :: (factorsFrom 10000000 2 n).map toString) ++ "\n")
    | none => complain (quotedText w ++ " is not a valid positive integer")

end ServerTrials.Client.Utility
