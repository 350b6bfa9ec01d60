import ServerTrials.Client.Utility.Basic

/-!
Moments in the calendar, in universal time.
-/

namespace ServerTrials.Client.Utility

/-! ### Days -/

/-- A day: its year, its month and its day in that, from one on. -/
structure Day where
  year : Int
  month : Nat
  day : Nat
  deriving DecidableEq, Repr

namespace Day

/-- The number of a day, from the first one of 1970 on. Years are counted from March, so that the day that
comes every four years is the last one. -/
def number (d : Day) : Int :=
  let y := if d.month ≤ 2 then d.year - 1 else d.year
  let era := Int.fdiv y 400
  let inEra := y - era * 400
  let month : Int := (d.month + 9) % 12
  let inYear := (153 * month + 2) / 5 + d.day - 1
  era * 146097 + inEra * 365 + inEra / 4 - inEra / 100 + inYear - 719468

/-- The day with a number. -/
def ofNumber (n : Int) : Day :=
  let z := n + 719468
  let era := Int.fdiv z 146097
  let inEra := z - era * 146097
  let year := (inEra - inEra / 1460 + inEra / 36524 - inEra / 146096) / 365
  let inYear := inEra - (365 * year + year / 4 - year / 100)
  let m := (5 * inYear + 2) / 153
  let month := if m < 10 then m + 3 else m - 9
  ⟨year + era * 400 + (if month ≤ 2 then 1 else 0), month.toNat, (inYear - (153 * m + 2) / 5 + 1).toNat⟩

/-- The place of a day in its week, from Sunday on. -/
def weekday (n : Int) : Nat := (Int.fmod (n + 4) 7).toNat

/-- The place of a day in its year, from zero on. -/
def inYear (d : Day) : Nat := (d.number - number ⟨d.year, 1, 1⟩).toNat

/-- The year and the number of a week that begins on Monday; the first one holds the fourth of January. -/
def week (n : Int) : Int × Nat :=
  let fromMonday := (weekday n + 6) % 7
  let thursday := n - fromMonday + 3
  let d := ofNumber thursday
  (d.year, d.inYear / 7 + 1)

end Day

/-- The names of the days of a week. -/
def dayNames : List String := ["Sunday", "Monday", "Tuesday", "Wednesday", "Thursday", "Friday", "Saturday"]

/-- The names of months. -/
def monthNames : List String :=
  ["January", "February", "March", "April", "May", "June", "July", "August", "September", "October",
    "November", "December"]

/-! ### Formats -/

/-- How a part of a moment is filled up. -/
structure Filling where
  sign : Option Char := none
  width : Option Nat := none
  upper : Bool := false
  lower : Bool := false

namespace Filling

/-- A number in a width, filled up with a sign. -/
def number (f : Filling) (sign : Char) (width : Nat) (n : Int) : String :=
  let sign := f.sign.getD sign
  let width := f.width.getD width
  let ds := (toString n.natAbs).toList
  let minus := if n < 0 then ['-'] else []
  if sign == '-' then String.ofList (minus ++ ds)
  else
    let fill := List.replicate (width - ds.length - minus.length) (if sign == '+' then '0' else sign)
    String.ofList (if sign == ' ' then fill ++ minus ++ ds else minus ++ fill ++ ds)

/-- A text, filled up in front. -/
def text (f : Filling) (s : String) : String :=
  let s := if f.upper then s.toUpper else if f.lower then s.toLower else s
  rightAligned (f.width.getD 0) s

end Filling

/-- A moment: seconds from the beginning of 1970, and the billionth parts of the next one. -/
structure Moment where
  seconds : Int
  parts : Nat := 0

/-- The text of a letter of a format. -/
def Moment.part (m : Moment) (f : Filling) (c : Char) : Option String :=
  let n := Int.fdiv m.seconds 86400
  let second := (m.seconds - n * 86400).toNat
  let d := Day.ofNumber n
  let w := Day.weekday n
  let (hour, minute) := (second / 3600, second / 60 % 60)
  let half := if hour % 12 = 0 then 12 else hour % 12
  let two (k : Int) : String := f.number '0' 2 k
  let plain (sign : Char) (k : Int) : String := Filling.number {} sign 2 k
  let name (names : List String) (k : Nat) : String := names[k]?.getD ""
  let short (s : String) : String := String.ofList (s.toList.take 3)
  let clock := plain '0' hour ++ ":" ++ plain '0' minute
  let date := plain '0' d.month ++ "/" ++ plain '0' d.day ++ "/" ++ plain '0' (Int.fmod d.year 100)
  match c with
  | 'Y' => some (f.number '0' 4 d.year)
  | 'C' => some (two (Int.fdiv d.year 100))
  | 'y' => some (two (Int.fmod d.year 100))
  | 'm' => some (two d.month)
  | 'd' => some (two d.day)
  | 'e' => some (f.number ' ' 2 d.day)
  | 'H' => some (two hour)
  | 'k' => some (f.number ' ' 2 hour)
  | 'I' => some (two half)
  | 'l' => some (f.number ' ' 2 half)
  | 'M' => some (two minute)
  | 'S' => some (two (second % 60))
  | 'N' => some (f.number '0' 9 m.parts)
  | 's' => some (f.number '0' 1 m.seconds)
  | 'j' => some (f.number '0' 3 (d.inYear + 1))
  | 'q' => some (toString ((d.month + 2) / 3))
  | 'u' => some (toString (if w = 0 then 7 else w))
  | 'w' => some (toString w)
  | 'U' => some (two ((d.inYear + 7 - w) / 7 : Nat))
  | 'W' => some (two ((d.inYear + 7 - (w + 6) % 7) / 7 : Nat))
  | 'V' => some (two (Day.week n).2)
  | 'G' => some (f.number '0' 4 (Day.week n).1)
  | 'g' => some (two (Int.fmod (Day.week n).1 100))
  | 'a' => some (f.text (short (name dayNames w)))
  | 'A' => some (f.text (name dayNames w))
  | 'b' | 'h' => some (f.text (short (name monthNames (d.month - 1))))
  | 'B' => some (f.text (name monthNames (d.month - 1)))
  | 'p' => some (f.text (if hour < 12 then "AM" else "PM"))
  | 'P' => some (f.text (if hour < 12 then "am" else "pm"))
  | 'Z' => some (f.text "UTC")
  | 'z' => some "+0000"
  | 'F' => some (f.text (toString d.year ++ "-" ++ plain '0' d.month ++ "-" ++ plain '0' d.day))
  | 'D' | 'x' => some (f.text date)
  | 'T' | 'X' => some (f.text (clock ++ ":" ++ plain '0' (second % 60)))
  | 'R' => some (f.text clock)
  | 'r' => some (f.text (plain '0' half ++ ":" ++ plain '0' minute ++ ":" ++ plain '0' (second % 60)
      ++ (if hour < 12 then " AM" else " PM")))
  | 'c' => some (f.text (short (name dayNames w) ++ " " ++ short (name monthNames (d.month - 1)) ++ " "
      ++ plain ' ' d.day ++ " " ++ clock ++ ":" ++ plain '0' (second % 60) ++ " " ++ toString d.year))
  | 'n' => some "\n"
  | 't' => some "\t"
  | '%' => some "%"
  | _ => none

/-- A moment by a format. -/
def Moment.format (m : Moment) : Nat → List Char → String
  | 0, _ => ""
  | _, [] => ""
  | n + 1, '%' :: cs =>
    let marks := cs.takeWhile fun c => "-_0^#+".toList.contains c
    let rest := cs.drop marks.length
    let ds := rest.takeWhile Char.isDigit
    let rest := rest.drop ds.length
    let colons := rest.takeWhile (· == ':')
    let rest := rest.drop colons.length
    let fill := (marks.filter fun c => "-_0+".toList.contains c).getLast?.map fun c => if c == '_' then ' ' else c
    let lowers := rest.head? == some 'Z' || rest.head? == some 'p'
    let f : Filling :=
      { sign := fill, width := digits? (String.ofList ds)
        upper := marks.contains '^' || (marks.contains '#' && !lowers), lower := marks.contains '#' && lowers }
    match rest with
    | 'z' :: rest =>
      (match colons.length with
        | 0 => "+0000"
        | 1 => "+00:00"
        | 2 => "+00:00:00"
        | _ => "+00") ++ m.format n rest
    | c :: rest =>
      match m.part f c with
      | some s => s ++ m.format n rest
      | none => String.ofList ('%' :: cs.take (cs.length - rest.length)) ++ m.format n rest
    | [] => "%" ++ String.ofList cs
  | n + 1, c :: cs => String.ofList [c] ++ m.format n cs

/-! ### Reading -/

/-- The moment that a machine holds for the present. -/
def present : Moment := { seconds := 1735689600 }

/-- The day that a text such as `2020-01-31` names. -/
def day? (s : String) : Option Int := do
  match s.splitOn "-" with
  | [y, m, d] => do
    let (year, month, day) := (← digits? y, ← digits? m, ← digits? d)
    let n := Day.number ⟨year, month, day⟩
    if 1 ≤ month && month ≤ 12 && Day.ofNumber n = ⟨year, month, day⟩ then some n else none
  | _ => none

/-- The seconds of a day that a text such as `12:34:56` names. -/
def clock? (s : String) : Option Int := do
  let parts ← (s.splitOn ":").mapM digits?
  match parts with
  | [h, m] => if h < 24 && m < 60 then some ((h * 3600 + m * 60 : Nat) : Int) else none
  | [h, m, s] => if h < 24 && m < 60 && s < 61 then some ((h * 3600 + m * 60 + s : Nat) : Int) else none
  | _ => none

/-- The seconds of a unit. -/
def unitSeconds? (s : String) : Option Int :=
  let s := if s.toList.getLast? == some 's' then String.ofList s.toList.dropLast else s
  ([("sec", 1), ("second", 1), ("min", 60), ("minute", 60), ("hour", 3600), ("day", 86400), ("week", 604800)].find?
    (·.1 == s)).map (·.2)

/-- The month of a name or its beginning. -/
def month? (s : String) : Option Nat :=
  let low := s.toLower
  if low.length < 3 then none
  else (monthNames.findIdx? fun n => low.toList.isPrefixOf n.toLower.toList).map (· + 1)

/-- The number of a text with a sign. -/
def signed? (s : String) : Option Int :=
  match s.toList with
  | '+' :: ds => (digits? (String.ofList ds)).map fun n => (n : Int)
  | '-' :: ds => (digits? (String.ofList ds)).map fun n => -(n : Int)
  | _ => (digits? s).map fun n => (n : Int)

/-- The moment that words name, from a moment on. -/
def momentOfWords : Moment → List String → Option Moment
  | m, [] => some m
  | m, w :: ws =>
    let midnight := Int.fdiv m.seconds 86400 * 86400
    match w.toLower, ws with
    | "utc", ws | "z", ws | "gmt", ws | "now", ws => momentOfWords m ws
    | "today", ws => momentOfWords m ws
    | "tomorrow", ws => momentOfWords { m with seconds := m.seconds + 86400 } ws
    | "yesterday", ws => momentOfWords { m with seconds := m.seconds - 86400 } ws
    | _, unit :: "ago" :: ws =>
      match signed? w, unitSeconds? unit with
      | some n, some u => momentOfWords { m with seconds := m.seconds - n * u } ws
      | _, _ => none
    | _, unit :: ws =>
      match day? w, clock? w, signed? w, unitSeconds? unit with
      | some n, _, _, _ => momentOfWords ⟨n * 86400, 0⟩ (unit :: ws)
      | _, some c, _, _ => momentOfWords ⟨midnight + c, 0⟩ (unit :: ws)
      | _, _, some n, some u => momentOfWords { m with seconds := m.seconds + n * u } ws
      | _, _, some n, none =>
        match month? unit, ws with
        | some k, year :: ws =>
          match digits? year with
          | some y => momentOfWords ⟨Day.number ⟨y, k, n.toNat⟩ * 86400, 0⟩ ws
          | none => none
        | _, _ => none
      | _, _, _, _ => none
    | _, [] =>
      match day? w, clock? w with
      | some n, _ => some ⟨n * 86400, 0⟩
      | _, some c => some ⟨midnight + c, 0⟩
      | _, _ => none

/-- The words of a text that names a moment; a `T` stands between a day and a time. -/
def momentWords (s : String) : List String :=
  (s.toList.splitBy fun a b => isGap a == isGap b).flatMap fun g =>
    match g with
    | [] => []
    | c :: _ =>
      if isGap c then []
      else if c.isDigit then
        let apart := g.flatMap fun c => if c == 'T' then [' '] else if c == 'Z' then [' ', 'Z'] else [c]
        ((String.ofList apart).splitOn " ").filter (· ≠ "")
      else [String.ofList g]

/-- The moment that a text names. -/
def moment? (s : String) : Option Moment :=
  match s.toList with
  | '@' :: cs =>
    let whole := cs.takeWhile (· != '.')
    let fraction := (cs.drop whole.length).drop 1
    match signed? (String.ofList whole) with
    | some n =>
      if fraction.all Char.isDigit then
        let ds := (fraction ++ List.replicate (9 - fraction.length) '0').take 9
        some ⟨n, ((digits? (String.ofList ds)).getD 0)⟩
      else none
    | none => none
  | _ => if s = "" then some ⟨Int.fdiv present.seconds 86400 * 86400, 0⟩ else momentOfWords present (momentWords s)

/-- Writes a moment. -/
def date : Program := do
  let args := (← read).args.map fun a =>
    if a = "-I" || a = "--iso-8601" then "-Idate" else a
  let (given, operands) ← Options.split
    { letters := "d:f:r:s:uI:R3:", names := [("date", 'd'), ("utc", 'u'), ("universal", 'u'), ("reference", 'r'),
        ("iso-8601", 'I'), ("rfc-3339", '3'), ("rfc-email", 'R')] } args
  atMost 1 operands
  let moment ← match argument? given 'd', argument? given 'r' with
    | some text, _ =>
      match moment? text with
      | some m => pure m
      | none => fail ("invalid date " ++ quotedText text)
    | none, some path => do
      match (← get).files.find (← read).cwd path with
      | .ok _ => pure present
      | .error e => fail (blamePath path e.wording)
    | none, none => pure present
  let long := if has given 'R' then "%a, %d %b %Y %H:%M:%S %z"
    else
      match argument? given 'I', argument? given '3' with
      | some "hours", _ => "%Y-%m-%dT%H%:z"
      | some "minutes", _ => "%Y-%m-%dT%H:%M%:z"
      | some "s", _ | some "seconds", _ => "%Y-%m-%dT%H:%M:%S%:z"
      | some "ns", _ => "%Y-%m-%dT%H:%M:%S,%N%:z"
      | some _, _ => "%Y-%m-%d"
      | none, some "date" => "%Y-%m-%d"
      | none, some "ns" => "%Y-%m-%d %H:%M:%S.%N%:z"
      | none, some _ => "%Y-%m-%d %H:%M:%S%:z"
      | none, none => "%a %b %e %H:%M:%S %Z %Y"
  let format ← match operands with
    | [] => pure long
    | a :: _ =>
      match a.toList with
      | '+' :: f => pure (String.ofList f)
      | _ => fail ("invalid date " ++ quotedText a)
  put (moment.format (format.length + 1) format.toList ++ "\n")

end ServerTrials.Client.Utility
