import ServerTrials.Json.Basic

/-!
Reading JSON text.

The grammar is the strict one: no comments, no trailing commas, no leading zeros, no raw control
characters in strings, no lone surrogates. Arrays and objects nest at most 127 deep, and that bound
carries the recursion. Of several members with one name the last counts, and members are kept in
rising order of their names.

A reader takes the rest of the text and answers what it read with what follows it.
-/

namespace ServerTrials.Json

/-- How deep arrays and objects may nest. -/
def maxDepth : Nat := 127

/-- Blank, tab, line feed and carriage return may stand between tokens. -/
def isSpace (c : Char) : Bool := c == ' ' || c == '\t' || c == '\n' || c == '\r'

/-- The text after its leading spaces. -/
def skipSpace (cs : List Char) : List Char := cs.dropWhile isSpace

/-- The value of a decimal digit. -/
def digit? (c : Char) : Option Nat := if c.isDigit then some (c.toNat - '0'.toNat) else none

/-- The value of a hexadecimal digit of either case. -/
def hexDigit? (c : Char) : Option Nat :=
  if c.isDigit then some (c.toNat - '0'.toNat)
  else if 'a' ≤ c && c ≤ 'f' then some (c.toNat - 'a'.toNat + 10)
  else if 'A' ≤ c && c ≤ 'F' then some (c.toNat - 'A'.toNat + 10)
  else none

/-! ### Strings -/

/-- Four hexadecimal digits. -/
def readUnit : List Char → Option (Nat × List Char)
  | a :: b :: c :: d :: rest => do
    let a ← hexDigit? a
    let b ← hexDigit? b
    let c ← hexDigit? c
    let d ← hexDigit? d
    some (((a * 16 + b) * 16 + c) * 16 + d, rest)
  | _ => none

/-- What an escape of one letter stands for. -/
def simpleEscape? : Char → Option Char
  | '"' => some '"'
  | '\\' => some '\\'
  | '/' => some '/'
  | 'b' => some '\x08'
  | 'f' => some '\x0c'
  | 'n' => some '\n'
  | 'r' => some '\r'
  | 't' => some '\t'
  | _ => none

/-- The character after a backslash; a leading surrogate needs an escaped trailing one behind it. -/
def readEscape : List Char → Option (Char × List Char)
  | 'u' :: cs => do
    let (unit, rest) ← readUnit cs
    if 0xD800 ≤ unit && unit < 0xDC00 then
      match rest with
      | '\\' :: 'u' :: cs => do
        let (low, rest) ← readUnit cs
        if 0xDC00 ≤ low && low < 0xE000 then
          some (Char.ofNat (0x10000 + (unit - 0xD800) * 0x400 + (low - 0xDC00)), rest)
        else none
      | _ => none
    else if 0xDC00 ≤ unit && unit < 0xE000 then none
    else some (Char.ofNat unit, rest)
  | c :: rest => do some (← simpleEscape? c, rest)
  | [] => none

/-- The rest of a string after its opening quote; `fuel` bounds the characters read. -/
def readStringBody (fuel : Nat) (acc : List Char) (cs : List Char) : Option (String × List Char) :=
  match fuel, cs with
  | _, '"' :: rest => some (String.ofList acc.reverse, rest)
  | fuel + 1, '\\' :: rest => do
    let (c, rest) ← readEscape rest
    readStringBody fuel (c :: acc) rest
  | fuel + 1, c :: rest => if c.toNat < 0x20 then none else readStringBody fuel (c :: acc) rest
  | _, _ => none

/-- A string, after its opening quote. -/
def readString (cs : List Char) : Option (String × List Char) := readStringBody cs.length [] cs

/-! ### Numbers -/

/-- The first integer beyond 64 bits without a sign. -/
def wordBound : Nat := 18446744073709551616

/-- The digits at the front of the text. -/
def digitsOf (cs : List Char) : List Nat := (cs.takeWhile Char.isDigit).filterMap digit?

/-- Takes digits into a significand for as long as it fits 64 bits; answers the significand, how many
digits were taken and how many were left out. -/
def takeDigits (significand : Nat) : List Nat → Nat × Nat × Nat
  | [] => (significand, 0, 0)
  | d :: ds =>
    if significand * 10 + d < wordBound then
      let (s, taken, left) := takeDigits (significand * 10 + d) ds
      (s, taken + 1, left)
    else (significand, 0, ds.length + 1)

/-- The largest exponent that is read digit by digit. -/
def exponentBound : Nat := 2147483648

/-- The exponent after its letter: a sign or none, then digits. Answers whether it is positive, its
size, and the rest. -/
def readExponent (cs : List Char) : Option (Bool × Nat × List Char) :=
  let (positive, cs) := match cs with
    | '+' :: r => (true, r)
    | '-' :: r => (false, r)
    | r => (true, r)
  let ds := digitsOf cs
  if ds.isEmpty then none
  else some (positive, ds.foldl (fun n d => n * 10 + d) 0, cs.dropWhile Char.isDigit)

/-- The fraction with that significand and power of ten. Beyond the exponents that are read digit by
digit, a zero or a negative exponent gives a zero and a positive one is out of range. -/
def fractionOf (negative : Bool) (significand : Nat) (power : Int) (exponent : Option (Bool × Nat)) :
    Option Number :=
  match exponent with
  | none => (Binary64.ofDecimal? negative significand power).map .fraction
  | some (positive, size) =>
    if exponentBound ≤ size then
      if significand ≠ 0 && positive then none else some (.fraction (Binary64.zero negative))
    else
      let power := if positive then power + size else power - size
      (Binary64.ofDecimal? negative significand power).map .fraction

/-- The largest number whose negation is an integer of 64 bits. -/
def largestNegated : Nat := 9223372036854775808

/-- A number without fraction and exponent: an integer if it fits 64 bits, with a sign below zero and
without one above; minus zero is a fraction. -/
def wholeNumber (negative : Bool) (significand left : Nat) : Option Number :=
  if left = 0 then
    if !negative then some (.integer significand)
    else if significand = 0 || largestNegated < significand then fractionOf true significand 0 none
    else some (.integer (-(significand : Int)))
  else fractionOf negative significand left none

/-- A number after its sign. Digits beyond 64 bits of significand count as zeros before the point and
are dropped after it. -/
def readMagnitude (negative : Bool) (cs : List Char) : Option (Number × List Char) := do
  let ds := digitsOf cs
  let rest := cs.dropWhile Char.isDigit
  match ds with
  | [] => none
  | 0 :: _ :: _ => none
  | _ =>
    let (significand, _, left) := takeDigits 0 ds
    let exponentOf (cs : List Char) : Option (Option (Bool × Nat) × List Char) :=
      match cs with
      | 'e' :: cs | 'E' :: cs => do
        let (positive, size, rest) ← readExponent cs
        some (some (positive, size), rest)
      | cs => some (none, cs)
    match rest with
    | '.' :: cs =>
      let places := digitsOf cs
      if places.isEmpty then none
      else
        let (significand, taken, _) := takeDigits significand places
        let (exponent, rest) ← exponentOf (cs.dropWhile Char.isDigit)
        let n ← fractionOf negative significand ((left : Int) - taken) exponent
        some (n, rest)
    | cs =>
      let (exponent, rest) ← exponentOf cs
      let n ← match exponent with
        | none => wholeNumber negative significand left
        | some _ => fractionOf negative significand left exponent
      some (n, rest)

/-! ### Values -/

/-- The text after that word. -/
def expect (word : List Char) (cs : List Char) : Option (List Char) :=
  if word.isPrefixOf cs then some (cs.drop word.length) else none

/-- A value and all that follows it in an array, up to its end. -/
def readItems (value : List Char → Option (Json × List Char)) :
    Nat → List Json → List Char → Option (List Json × List Char)
  | 0, _, _ => none
  | fuel + 1, acc, cs => do
    let (x, rest) ← value (skipSpace cs)
    match skipSpace rest with
    | ',' :: rest => readItems value fuel (x :: acc) rest
    | ']' :: rest => some ((x :: acc).reverse, rest)
    | _ => none

/-- A member and all that follows it in an object, up to its end. -/
def readMembers (value : List Char → Option (Json × List Char)) :
    Nat → List (String × Json) → List Char → Option (List (String × Json) × List Char)
  | 0, _, _ => none
  | fuel + 1, acc, cs =>
    match skipSpace cs with
    | '"' :: cs => do
      let (name, rest) ← readString cs
      match skipSpace rest with
      | ':' :: rest => do
        let (x, rest) ← value (skipSpace rest)
        match skipSpace rest with
        | ',' :: rest => readMembers value fuel (setMember name x acc) rest
        | '\x7d' :: rest => some (setMember name x acc, rest)
        | _ => none
      | _ => none
    | _ => none

/-- A value whose arrays and objects nest at most `depth` deep. -/
def readValue (depth : Nat) (cs : List Char) : Option (Json × List Char) :=
  match depth, cs with
  | _, '"' :: rest => do
    let (s, rest) ← readString rest
    some (.string s, rest)
  | _, 'n' :: _ => do some (.null, ← expect "null".toList cs)
  | _, 't' :: _ => do some (.bool true, ← expect "true".toList cs)
  | _, 'f' :: _ => do some (.bool false, ← expect "false".toList cs)
  | _, '-' :: rest => do
    let (n, rest) ← readMagnitude true rest
    some (.number n, rest)
  | depth + 1, '[' :: rest =>
    match skipSpace rest with
    | ']' :: rest => some (.array [], rest)
    | rest => do
      let (items, rest) ← readItems (readValue depth) (rest.length + 1) [] rest
      some (.array items, rest)
  | depth + 1, '\x7b' :: rest =>
    match skipSpace rest with
    | '\x7d' :: rest => some (.object [], rest)
    | rest => do
      let (members, rest) ← readMembers (readValue depth) (rest.length + 1) [] rest
      some (.object members, rest)
  | _, cs => do
    let (n, rest) ← readMagnitude false cs
    some (.number n, rest)

/-- The value that a text holds, with nothing but spaces around it. -/
def ofText? (s : String) : Option Json := do
  let (v, rest) ← readValue maxDepth (skipSpace s.toList)
  if (skipSpace rest).isEmpty then some v else none

end ServerTrials.Json
