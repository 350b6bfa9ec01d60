/-!
Decoding bytes that may not be UTF-8.

A well-formed sequence gives its character. Where none begins, the longest start of one that is there
(at least one byte) gives a single replacement character.
-/

namespace ServerTrials.Text

/-- What stands for bytes that are no character. -/
def replacement : Char := '\uFFFD'

/-- How many bytes follow a leading byte, the bits it carries, and the range of the second byte. -/
def leadingByte (b : UInt8) : Option (Nat × Nat × UInt8 × UInt8) :=
  if 0xC2 ≤ b && b ≤ 0xDF then some (1, (b &&& 0x1F).toNat, 0x80, 0xBF)
  else if b == 0xE0 then some (2, 0, 0xA0, 0xBF)
  else if b == 0xED then some (2, 0xD, 0x80, 0x9F)
  else if 0xE1 ≤ b && b ≤ 0xEF then some (2, (b &&& 0x0F).toNat, 0x80, 0xBF)
  else if b == 0xF0 then some (3, 0, 0x90, 0xBF)
  else if 0xF1 ≤ b && b ≤ 0xF3 then some (3, (b &&& 0x07).toNat, 0x80, 0xBF)
  else if b == 0xF4 then some (3, 4, 0x80, 0x8F)
  else none

/-- Where the decoder stands: between characters, or inside one, with the bytes still missing, the
bits so far and the range of the next byte. -/
inductive Decoder where
  | between
  | inside (missing : Nat) (bits : Nat) (low high : UInt8)
  deriving DecidableEq, Repr

/-- The characters that a byte gives between characters, and where the decoder stands after it. -/
def Decoder.begin (b : UInt8) : Decoder × List Char :=
  if b < 0x80 then (.between, [Char.ofNat b.toNat])
  else match leadingByte b with
    | some (missing, bits, low, high) => (.inside missing bits low high, [])
    | none => (.between, [replacement])

/-- The characters that a byte gives, and where the decoder stands after it. -/
def Decoder.step : Decoder → UInt8 → Decoder × List Char
  | .between, b => Decoder.begin b
  | .inside missing bits low high, b =>
    if low ≤ b && b ≤ high then
      let bits := bits * 64 + (b &&& 0x3F).toNat
      if missing ≤ 1 then (.between, [Char.ofNat bits]) else (.inside (missing - 1) bits 0x80 0xBF, [])
    else
      let (next, cs) := Decoder.begin b
      (next, replacement :: cs)

/-- The characters of the bytes, from where the decoder stands. -/
def Decoder.run : Decoder → List UInt8 → List Char
  | .between, [] => []
  | .inside .., [] => [replacement]
  | d, b :: bs =>
    let (next, cs) := d.step b
    cs ++ next.run bs

/-- The text of bytes, with replacements where they are not UTF-8. -/
def decodeLossy (bytes : List UInt8) : String := String.ofList (Decoder.between.run bytes)

/-- The bytes of a text. -/
def utf8 (s : String) : List UInt8 := s.toUTF8.toList

end ServerTrials.Text
