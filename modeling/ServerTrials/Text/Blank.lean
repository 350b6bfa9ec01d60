/-!
Blank characters (the property White_Space) and texts cut at them.
-/

namespace ServerTrials.Text

/-- Whether a character is blank. -/
def isBlank (c : Char) : Bool :=
  let n := c.toNat
  (0x09 ≤ n && n ≤ 0x0D) || n == 0x20 || n == 0x85 || n == 0xA0 || n == 0x1680
    || (0x2000 ≤ n && n ≤ 0x200A) || n == 0x2028 || n == 0x2029 || n == 0x202F || n == 0x205F
    || n == 0x3000

/-- The characters without the blanks at the end. -/
def dropTrailing (cs : List Char) : List Char := (cs.reverse.dropWhile isBlank).reverse

/-- The text without the blanks at its end. -/
def trimEnd (s : String) : String := String.ofList (dropTrailing s.toList)

/-- The text without the blanks at its start and end. -/
def trim (s : String) : String := String.ofList (dropTrailing (s.toList.dropWhile isBlank))

end ServerTrials.Text
