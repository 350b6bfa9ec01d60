import ServerTrials.Net.Address

/-!
Reading numeric addresses and endpoints.

An IPv4 literal is four decimal numbers up to 255 without leading zeros. An IPv6 literal is eight
groups of one to four hexadecimal digits; one `::` may stand for one or more zero groups, and a dotted
IPv4 literal for the last two. A reader takes the rest of the text and answers what follows what it
read; a literal has to fill its text.
-/

namespace ServerTrials.IpAddress

/-- The value of a digit in a base up to sixteen. -/
def digitIn? (base : Nat) (c : Char) : Option Nat :=
  let v := if c.isDigit then c.toNat - '0'.toNat
    else if 'a' ≤ c && c ≤ 'f' then c.toNat - 'a'.toNat + 10
    else if 'A' ≤ c && c ≤ 'F' then c.toNat - 'A'.toNat + 10
    else base
  if v < base then some v else none

/-- Whether a character is a digit in that base. -/
def isDigitIn (base : Nat) (c : Char) : Bool := (digitIn? base c).isSome

/-- A number of at most `most` digits, all the digits that stand there. -/
def readNumber (base most : Nat) (leadingZeros : Bool) (cs : List Char) : Option (Nat × List Char) :=
  let ds := cs.takeWhile (isDigitIn base)
  if ds = [] ∨ most < ds.length then none
  else if !leadingZeros && ds.head? == some '0' && 1 < ds.length then none
  else some ((ds.filterMap (digitIn? base)).foldl (fun n d => n * base + d) 0,
    cs.dropWhile (isDigitIn base))

/-- The text after that character. -/
def skipChar (c : Char) : List Char → Option (List Char)
  | d :: cs => if d = c then some cs else none
  | [] => none

/-- An octet in decimal. -/
def readOctet (cs : List Char) : Option (UInt8 × List Char) := do
  let (n, rest) ← readNumber 10 3 false cs
  if n < 256 then some (n.toUInt8, rest) else none

/-- An IPv4 literal at the front of the text: four octets with points between them. -/
def readV4 (cs : List Char) : Option (IpAddress × List Char) := do
  let (a, cs) ← readOctet cs
  let (b, cs) ← readOctet (← skipChar '.' cs)
  let (c, cs) ← readOctet (← skipChar '.' cs)
  let (d, cs) ← readOctet (← skipChar '.' cs)
  some (quad a b c d, cs)

/-- Groups with colons between them, at most `room` of them and as many as stand there; `first` if no
colon comes before the next one. A dotted literal ends them and counts for two. Answers the groups,
whether a dotted literal ended them, and the rest. -/
def readGroups (room : Nat) (first : Bool) (cs : List Char) : List Nat × Bool × List Char :=
  match room with
  | 0 => ([], false, cs)
  | room + 1 =>
    match if first then some cs else skipChar ':' cs with
    | none => ([], false, cs)
    | some body =>
      match if room = 0 then none else readV4 body with
      | some (a, rest) => (groupsOf a.octets, true, rest)
      | none =>
        match readNumber 16 4 true body with
        | none => ([], false, cs)
        | some (g, rest) =>
          let (gs, ended, rest) := readGroups room false rest
          (g :: gs, ended, rest)

/-- An IPv6 literal at the front of the text. -/
def readV6 (cs : List Char) : Option (IpAddress × List Char) :=
  let (head, dottedHead, rest) := readGroups 8 true cs
  if head.length = 8 then some (ofGroups head, rest)
  else if dottedHead then none
  else do
    let rest ← skipChar ':' (← skipChar ':' rest)
    let (tail, _, rest) := readGroups (7 - head.length) true rest
    some (ofGroups (head ++ List.replicate (8 - head.length - tail.length) 0 ++ tail), rest)

/-- The address of that family which a text spells. -/
def ofText? (family : Family) (s : String) : Option IpAddress := do
  let (a, rest) ← match family with
    | .v4 => readV4 s.toList
    | .v6 => readV6 s.toList
  if rest = [] then some a else none

/-- The address of either family which a text spells. -/
def ofAnyText? (s : String) : Option IpAddress := ofText? .v4 s <|> ofText? .v6 s

end ServerTrials.IpAddress

namespace ServerTrials.Endpoint

open IpAddress

/-- A port after its colon, to the end of the text. -/
def readPort (cs : List Char) : Option UInt16 := do
  let (n, rest) ← readNumber 10 cs.length true (← skipChar ':' cs)
  if rest = [] ∧ n < 65536 then some n.toUInt16 else none

/-- The first number that is no scope number. -/
def scopeBound : Nat := 4294967296

/-- The text after a scope number, if one stands there. -/
def skipScope (cs : List Char) : Option (List Char) :=
  match cs with
  | '%' :: cs => do
    let (n, rest) ← readNumber 10 cs.length true cs
    if n < scopeBound then some rest else none
  | cs => some cs

/-- The endpoint that a text spells. The scope number of an IPv6 address is read and dropped. -/
def ofText? (s : String) : Option Endpoint :=
  match s.toList with
  | '[' :: cs => do
    let (a, rest) ← readV6 cs
    some ⟨a, ← readPort (← skipChar ']' (← skipScope rest))⟩
  | cs => do
    let (a, rest) ← readV4 cs
    some ⟨a, ← readPort rest⟩

end ServerTrials.Endpoint
