/-!
The text of a duration given in milliseconds.

From one second on it is written in seconds with the decimal places it needs, below that in
milliseconds, and no time at all is zero nanoseconds.
-/

namespace ServerTrials.Text

/-- The three decimal places of a number of thousandths, without zeros at the end. -/
def places (thousandths : Nat) : List Char :=
  let ds := [thousandths / 100 % 10, thousandths / 10 % 10, thousandths % 10].map Nat.digitChar
  (ds.reverse.dropWhile (· == '0')).reverse

/-- The text of a duration. -/
def durationText (ms : Nat) : String :=
  if ms = 0 then "0ns"
  else if ms < 1000 then toString ms ++ "ms"
  else
    let ps := places (ms % 1000)
    toString (ms / 1000) ++ (if ps.isEmpty then "" else "." ++ String.ofList ps) ++ "s"

end ServerTrials.Text
