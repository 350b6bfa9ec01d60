/-!
Numerals of natural numbers: an optional plus sign, then one or more decimal digits.
-/

namespace ServerTrials.Text

/-- The value of a sequence of decimal digits. -/
def digitsValue (cs : List Char) : Nat := cs.foldl (fun n c => n * 10 + (c.toNat - '0'.toNat)) 0

/-- The number that a numeral stands for, if it is below the bound. -/
def natBelow? (bound : Nat) (s : String) : Option Nat :=
  let ds := match s.toList with
    | '+' :: ds => ds
    | ds => ds
  if ds ≠ [] ∧ ds.all Char.isDigit ∧ digitsValue ds < bound then some (digitsValue ds) else none

end ServerTrials.Text
