import ServerTrials.Client.Regex.Reader
import ServerTrials.Client.Utility.Basic
import ServerTrials.Client.Utility.Printf

/-!
Programs that count and reckon.
-/

namespace ServerTrials.Client.Utility

/-! ### Sequences -/

/-- A decimal: a whole number and how many of its digits are fractional. -/
structure Decimal where
  value : Int
  places : Nat
  deriving DecidableEq, Repr

namespace Decimal

/-- The decimal that a text is. -/
def ofText? (s : String) : Option Decimal := do
  let cs := s.toList.dropWhile isGap
  match cs with
  | '0' :: 'x' :: ds =>
    if ds.isEmpty || !ds.all (inClass "xdigit") then none
    else
      let n : Nat := ds.foldl (fun n c =>
        n * 16 + (if c.isDigit then c.toNat - '0'.toNat else c.toLower.toNat - 'a'.toNat + 10)) 0
      some ⟨n, 0⟩
  | cs =>
    let (negative, value, power, rest) ← Real.takeDecimal cs
    if !rest.isEmpty then none
    else
      let n : Int := if negative then -(value : Int) else value
      if 0 ≤ power then some ⟨n * Nat.pow 10 (min power.toNat 400), 0⟩
      else some ⟨n, min (-power).toNat 400⟩

/-- The value with that many fractional digits. -/
def scaled (d : Decimal) (places : Nat) : Int := d.value * Nat.pow 10 (places - d.places)

/-- A number with that many fractional digits, in so many characters with leading zeros. -/
def text (value : Int) (places width : Nat) : String :=
  let ds := Nat.toDigits 10 value.natAbs
  let ds := List.replicate (places + 1 - ds.length) '0' ++ ds
  let whole := ds.take (ds.length - places)
  let fraction := if places = 0 then [] else '.' :: ds.drop (ds.length - places)
  let body := whole ++ fraction
  let sign := if value < 0 then ['-'] else []
  String.ofList (sign ++ List.replicate (width - sign.length - body.length) '0' ++ body)

end Decimal

/-- The numbers from a first to a last one; each turn takes a step. -/
def stepping (increment last : Int) : Nat → Int → List Int
  | 0, _ => []
  | n + 1, x =>
    if (0 < increment && last < x) || (increment < 0 && x < last) then []
    else x :: stepping increment last n (x + increment)

/-- How many numbers a sequence may have. -/
def sequenceLimit : Nat := 1000000

/-- Whether a text is a format for one number. -/
def formatFault? (s : String) : Option String :=
  let cs := (s.replace "%%" "").toList
  match cs.dropWhile (· != '%') with
  | [] => some ("format " ++ quotedText s ++ " has no % directive")
  | _ :: rest =>
    let rest := rest.dropWhile fun c => "-+#0 '".toList.contains c || c.isDigit || c == '.'
    match rest with
    | c :: after =>
      if !"efgaEFGA".toList.contains c then
        some ("format " ++ quotedText s ++ " has unknown %" ++ String.ofList [c] ++ " directive")
      else if after.contains '%' then some ("format " ++ quotedText s ++ " has too many % directives")
      else none
    | [] => some ("format " ++ quotedText s ++ " ends in %")

/-- Whether an argument is an operand: a number below nothing looks like an option but is none. -/
def isSequenceOperand (a : String) : Bool :=
  match a.toList with
  | '-' :: c :: _ => c.isDigit || c == '.'
  | _ => true

/-- The arguments with a mark where the options end. -/
def endingOptions : List String → List String
  | [] => []
  | a :: rest =>
    if isSequenceOperand a then "--" :: a :: rest
    else if ["-s", "-f", "--separator", "--format"].contains a then
      match rest with
      | v :: rest => a :: v :: endingOptions rest
      | [] => [a]
    else if a = "--" then a :: rest
    else a :: endingOptions rest

/-- Writes a sequence of numbers. -/
def seq : Program := do
  let (given, operands) ← Options.split
    { letters := "f:s:w", ordered := true
      names := [("format", 'f'), ("separator", 's'), ("equal-width", 'w')] } (endingOptions (← read).args)
  if operands.isEmpty then misuse "missing operand"
  atMost 3 operands
  for o in operands do
    if (Decimal.ofText? o).isNone then misuse ("invalid floating point argument: " ++ quotedText o)
  let numbers := operands.filterMap Decimal.ofText?
  let (first, increment, last) : Decimal × Decimal × Decimal := match numbers with
    | [l] => (⟨1, 0⟩, ⟨1, 0⟩, l)
    | [f, l] => (f, ⟨1, 0⟩, l)
    | [f, i, l] => (f, i, l)
    | _ => (⟨1, 0⟩, ⟨1, 0⟩, ⟨1, 0⟩)
  if increment.value = 0 then
    misuse ("invalid Zero increment value: " ++ quotedText (operands[1]?.getD "0"))
  match argument? given 'f' with
  | some f => (formatFault? f).forM fun e => fail e
  | none => pure ()
  let places := max first.places increment.places
  let common := max places last.places
  let up (x : Int) : Int := x / (Nat.pow 10 (common - places) : Nat)
  let terms := (stepping (increment.scaled common) (last.scaled common) sequenceLimit (first.scaled common)).map up
  let width := if has given 'w' then
      let widths := ([terms.head?, terms.getLast?].filterMap id).map fun t => (Decimal.text t places 0).length
      let lastWidth := (Decimal.text (up (last.scaled common)) places 0).length
      (lastWidth :: widths).foldl max 0
    else 0
  let text (x : Int) : String :=
    match argument? given 'f' with
    | some f => (printf [f, Decimal.text x places 0]).text
    | none => Decimal.text x places width
  let separator := (argument? given 's').getD "\n"
  if !terms.isEmpty then put (separator.intercalate (terms.map text) ++ "\n")

/-! ### Expressions -/

/-- Reads an expression from words; answers its value and the words that are left. -/
abbrev Reckoning := List String → Except String (String × List String)

/-- The whole number that a text is. -/
def wholeNumber? (s : String) : Option Int :=
  match s.toList with
  | '-' :: cs => (digits? (String.ofList cs)).map fun n => -(n : Int)
  | _ => (digits? s).map fun n => (n : Int)

/-- Whether a value counts as nothing. -/
def isNull (s : String) : Bool :=
  match s.toList with
  | [] => true
  | ['-'] => false
  | '-' :: cs => cs.all (· == '0')
  | cs => cs.all (· == '0')

/-- The truth of a comparison as a number. -/
def truthText (b : Bool) : String := if b then "1" else "0"

/-- What a basic expression matches at the beginning of a text: its group if it has one, or how much. -/
def matchText (text pattern : String) : Except String String :=
  match Regex.ofString { extended := false } pattern with
  | .error e => .error e.wording
  | .ok r =>
    match r.findAtStart {} text.toList, r.groupCount with
    | some m, 0 => .ok (toString m.stop)
    | some m, _ => .ok (String.ofList (m.taken text.toList 1))
    | none, 0 => .ok "0"
    | none, _ => .ok ""

/-- The value of an operator between two values. -/
def reckon (op a b : String) : Except String String :=
  let arithmetic (f : Int → Int → Except String Int) : Except String String :=
    match wholeNumber? a, wholeNumber? b with
    | some x, some y => (f x y).map toString
    | _, _ => .error "non-integer argument"
  let comparison (f : Ordering → Bool) : Except String String :=
    match wholeNumber? a, wholeNumber? b with
    | some x, some y => .ok (truthText (f (compare x y)))
    | _, _ => .ok (truthText (f (compare (a.toList.map Char.toNat) (b.toList.map Char.toNat))))
  match op with
  | "|" => .ok (if !isNull a then a else if isNull b then "0" else b)
  | "&" => .ok (if isNull a || isNull b then "0" else a)
  | "<" => comparison (· == .lt)
  | "<=" => comparison (· != .gt)
  | "=" | "==" => comparison (· == .eq)
  | "!=" => comparison (· != .eq)
  | ">=" => comparison (· != .lt)
  | ">" => comparison (· == .gt)
  | "+" => arithmetic fun x y => .ok (x + y)
  | "-" => arithmetic fun x y => .ok (x - y)
  | "*" => arithmetic fun x y => .ok (x * y)
  | "/" => arithmetic fun x y => if y = 0 then .error "division by zero" else .ok (Int.tdiv x y)
  | "%" => arithmetic fun x y => if y = 0 then .error "division by zero" else .ok (Int.tmod x y)
  | _ => matchText a b

/-- The operators, those that bind least first. -/
def levels : List (List String) :=
  [["|"], ["&"], ["<", "<=", "=", "==", "!=", ">=", ">"], ["+", "-"], ["*", "/", "%"], [":"]]

/-- A value that has to stand here; `before` is the word before. -/
def missingAfter (before : String) : Except String (String × List String) :=
  .error ("syntax error: missing argument after " ++ quotedText before)

/-- The operators of a level after a value. -/
def moreReckoned (ops : List String) (one : String → Reckoning) : Nat → String → List String →
    Except String (String × List String)
  | 0, v, ws => .ok (v, ws)
  | n + 1, v, w :: ws =>
    if ops.contains w then do
      let (x, ws) ← one w ws
      moreReckoned ops one n (← reckon w v x) ws
    else .ok (v, w :: ws)
  | _, v, [] => .ok (v, [])

/-- The functions of words and a value that stands by itself; `before` is the word before. -/
def readValue (whole : Reckoning) : Nat → String → Reckoning
  | 0, before, _ => missingAfter before
  | n + 1, before, ws =>
    match ws with
    | [] => missingAfter before
    | "+" :: [] => missingAfter "+"
    | "+" :: w :: ws => .ok (w, ws)
    | "(" :: ws => do
      if ws.isEmpty then missingAfter "("
      else
        let (v, rest) ← whole ws
        match rest with
        | ")" :: rest => .ok (v, rest)
        | [] => .error ("syntax error: expecting ')' after " ++ quotedText (ws.getLast?.getD ""))
        | w :: _ => .error ("syntax error: expecting ')' instead of " ++ quotedText w)
    | ")" :: _ => .error "syntax error: unexpected ')'"
    | "length" :: ws => do
      let (v, ws) ← readValue whole n "length" ws
      .ok (toString v.length, ws)
    | "match" :: ws => do
      let (a, ws) ← readValue whole n "match" ws
      let (b, ws) ← readValue whole n a ws
      .ok (← matchText a b, ws)
    | "index" :: ws => do
      let (a, ws) ← readValue whole n "index" ws
      let (b, ws) ← readValue whole n a ws
      .ok (toString (((a.toList.findIdx? b.toList.contains).map (· + 1)).getD 0), ws)
    | "substr" :: ws => do
      let (a, ws) ← readValue whole n "substr" ws
      let (b, ws) ← readValue whole n a ws
      let (c, ws) ← readValue whole n b ws
      match wholeNumber? b, wholeNumber? c with
      | some i, some k =>
        if i ≤ 0 || k ≤ 0 then .ok ("", ws)
        else .ok (String.ofList ((a.toList.drop (i.toNat - 1)).take k.toNat), ws)
      | _, _ => .ok ("", ws)
    | w :: ws => .ok (w, ws)

/-- An expression of a level and those that bind more. -/
def readLevels (whole : Reckoning) : List (List String) → String → Reckoning
  | [], before, ws => readValue whole (ws.length + 1) before ws
  | ops :: more, before, ws => do
    let (v, rest) ← readLevels whole more before ws
    moreReckoned ops (fun w => readLevels whole more w) (ws.length + 1) v rest

/-- A whole expression; parentheses stand at most so deep. -/
def readExpression : Nat → Reckoning
  | 0, _ => .error "syntax error"
  | n + 1, ws => readLevels (readExpression n) levels "" ws

/-- Reckons an expression. -/
def expr : Program := do
  let words := match (← read).args with
    | "--" :: ws => ws
    | ws => ws
  if words.isEmpty then misuse "missing operand" 2
  match readExpression (words.length + 1) words with
  | .error e => fail e 2
  | .ok (_, w :: _) => fail ("syntax error: unexpected argument " ++ quotedText w) 2
  | .ok (v, []) => do
    put (v ++ "\n")
    if isNull v then leave 1

end ServerTrials.Client.Utility
