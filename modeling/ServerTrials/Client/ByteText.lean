import ServerTrials.Text.Utf8

/-!
Byte texts: what processes hand to each other.

A byte text is a string whose characters stand for bytes, the character with number `n` for the byte
`n`. Everything inside a client machine (arguments, variables, files, outputs) is byte text; texts from
outside come in by their UTF-8 bytes.
-/

namespace ServerTrials.Client

/-- The byte text with these bytes. -/
def byteText (bytes : List UInt8) : String := String.ofList (bytes.map fun b => Char.ofNat b.toNat)

/-- The byte text of a text. -/
def byteTextOf (s : String) : String := byteText (Text.utf8 s)

/-- The bytes of a byte text. -/
def bytesOf (s : String) : List UInt8 := s.toList.map fun c => c.toNat.toUInt8

/-- The text that a byte text is in UTF-8, with replacements where it is not. -/
def textOf (s : String) : String := Text.decodeLossy (bytesOf s)

/-- The lines of a byte text; a line end at its end begins no further line. -/
def linesOf (s : String) : List String :=
  let parts := s.splitOn "\n"
  if parts.getLast? = some "" then parts.dropLast else parts

/-- Lines with a line end after each. -/
def unlines (lines : List String) : String := String.join (lines.map (· ++ "\n"))

/-- The text without the line ends at its end. -/
def dropLineEnds (s : String) : String :=
  String.ofList (s.toList.reverse.dropWhile (· == '\n')).reverse

/-- The characters of a text that stand for blanks and line ends. -/
def isGap (c : Char) : Bool :=
  c == ' ' || c == '\t' || c == '\n' || c == '\r' || c == '\x0b' || c == '\x0c'

end ServerTrials.Client
