/-!
IP addresses, their families, and the endpoints (address and port) made of them.

An address is its octets in network order. The text of an IPv6 address shows eight groups in lower
case hexadecimal digits and writes the first longest run of two or more zero groups as `::`; an
address that carries an IPv4 address shows that in dotted form.
-/

namespace ServerTrials

/-- An IP family. -/
inductive Family where
  | v4
  | v6
  deriving DecidableEq, Repr

/-- The name of the family. -/
def Family.name : Family → String
  | .v4 => "IPv4"
  | .v6 => "IPv6"

/-- An IP address, as its octets in network order. -/
inductive IpAddress where
  | v4 (octets : Vector UInt8 4)
  | v6 (octets : Vector UInt8 16)
  deriving DecidableEq, Repr

namespace IpAddress

/-- The family of an address. -/
def family : IpAddress → Family
  | .v4 _ => .v4
  | .v6 _ => .v6

/-- The octets of an address in network order. -/
def octets : IpAddress → List UInt8
  | .v4 o => o.toList
  | .v6 o => o.toList

/-- The wildcard address of a family. -/
def unspecified : Family → IpAddress
  | .v4 => .v4 (Vector.replicate 4 0)
  | .v6 => .v6 (Vector.replicate 16 0)

/-- The IPv4 address of four octets. -/
def quad (a b c d : UInt8) : IpAddress := .v4 #v[a, b, c, d]

/-- The octet of an IPv6 address at place `i`, given its eight groups. -/
def octetOfGroups (groups : List Nat) (i : Nat) : UInt8 :=
  let g := groups.getD (i / 2) 0
  if i % 2 = 0 then (g / 256).toUInt8 else (g % 256).toUInt8

/-- The IPv6 address with the given eight groups of 16 bits. -/
def ofGroups (groups : List Nat) : IpAddress :=
  .v6 (Vector.ofFn fun i => octetOfGroups groups i)

/-- The groups of 16 bits that a sequence of octets forms. -/
def groupsOf : List UInt8 → List Nat
  | a :: b :: rest => (a.toNat * 256 + b.toNat) :: groupsOf rest
  | _ => []

/-! ### Text -/

/-- Octets in dotted form. -/
def dotted (octets : List UInt8) : String := ".".intercalate (octets.map fun o => toString o.toNat)

/-- A group in hexadecimal digits. -/
def groupText (g : Nat) : String := String.ofList (Nat.toDigits 16 g)

/-- How many zeros stand at the front. -/
def zeroCount (groups : List Nat) : Nat := (groups.takeWhile (· == 0)).length

/-- Start and length of the first longest run of zero groups among those from place `i` on. -/
def longestZeros (i : Nat) : List Nat → Nat × Nat
  | [] => (i, 0)
  | g :: gs =>
    let here := zeroCount (g :: gs)
    let later := longestZeros (i + 1) gs
    if later.2 ≤ here then (i, here) else later

/-- Groups separated by colons. -/
def groupsText (groups : List Nat) : String := ":".intercalate (groups.map groupText)

/-- The text of an IPv6 address that carries no IPv4 address. -/
def compressed (groups : List Nat) : String :=
  let (start, length) := longestZeros 0 groups
  if 1 < length then groupsText (groups.take start) ++ "::" ++ groupsText (groups.drop (start + length))
  else groupsText groups

/-- What the octets of an IPv6 address begin with if the last four are an IPv4 address. -/
def mappedLead : List UInt8 := List.replicate 10 0 ++ [0xFF, 0xFF]

/-- The text of an address. -/
def text : IpAddress → String
  | .v4 o => dotted o.toList
  | .v6 o =>
    if o.toList.take 12 = mappedLead then "::ffff:" ++ dotted (o.toList.drop 12)
    else compressed (groupsOf o.toList)

end IpAddress

/-- An address and a port. -/
structure Endpoint where
  address : IpAddress
  port : UInt16
  deriving DecidableEq, Repr

/-- The text of an endpoint; an IPv6 address stands in brackets. -/
def Endpoint.text (e : Endpoint) : String :=
  match e.address with
  | .v4 _ => e.address.text ++ ":" ++ toString e.port.toNat
  | .v6 _ => "[" ++ e.address.text ++ "]:" ++ toString e.port.toNat

end ServerTrials
