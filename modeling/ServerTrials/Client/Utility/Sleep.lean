import ServerTrials.Client.Utility.Basic
import ServerTrials.Client.Utility.Real

/-!
Durations and the program that sleeps.
-/

namespace ServerTrials.Client.Utility

/-- How many microseconds the letter after a number stands for. -/
def unit? : String → Option Nat
  | "" | "s" => some 1000000
  | "m" => some 60000000
  | "h" => some 3600000000
  | "d" => some 86400000000
  | _ => none

/-- The microseconds of a duration such as `1.5m`. -/
def duration? (s : String) : Option Nat := do
  if s = "inf" || s = "infinity" then some 1000000000000000
  else
    let (negative, value, power, rest) ← Real.takeDecimal s.toList
    let unit ← unit? (String.ofList rest)
    if negative && value ≠ 0 then none
    else if 0 ≤ power then some (value * Nat.pow 10 (min power.toNat 30) * unit)
    else some (value * unit / Nat.pow 10 (min (-power).toNat 400))

/-- Sleeps for some durations. -/
def sleep : Program := do
  let (_, operands) ← options { letters := "" }
  if operands.isEmpty then misuse "missing operand"
  let bad := operands.filter fun o => (duration? o).isNone
  match bad.getLast? with
  | some last => do
    for o in bad.dropLast do
      complain ("invalid time interval " ++ quotedText o)
    misuse ("invalid time interval " ++ quotedText last)
  | none => do
    let total := (operands.filterMap duration?).foldl (· + ·) 0
    modify ({ · with slept := some total })

end ServerTrials.Client.Utility
