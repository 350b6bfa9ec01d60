import ServerTrials.Client.Utility.Basic
import ServerTrials.Client.Utility.Test

/-!
The program that answers questions.

It reads up to four words by their number, and more of them as questions joined by `-a` and `-o`. Unlike the
question of a shell, what it does not understand it names in quotes.
-/

namespace ServerTrials.Client.Utility.Condition

open Test (Place)

/-- The operators between two words. -/
def binaries : List String :=
  ["=", "==", "!=", "-eq", "-ne", "-lt", "-le", "-gt", "-ge", "-nt", "-ot", "-ef"]

/-- The letters of operators before a word. -/
def unaries : List Char := "bcdefghkLnOGprSstuwxzN".toList

/-- Reads from the words of a question. -/
abbrev Reading := StateT (List String) (Except String)

/-- What a question is about: files and the last of all words. -/
structure Scene where
  place : Place
  lastWord : String

namespace Scene

/-- A word is missing. -/
def missing {α : Type} (s : Scene) : Reading α := throw ("missing argument after " ++ quotedText s.lastWord)

/-- Takes a word that has to be there. -/
def word (s : Scene) : Reading String := do
  match ← get with
  | [] => s.missing
  | w :: ws => do
    set ws
    return w

/-- The number that a word spells. -/
def integer (w : String) : Except String Int :=
  let cs := w.toList.dropWhile isGap
  let (sign, ds) := match cs with
    | '-' :: r => ("-", r)
    | '+' :: r => ("", r)
    | r => ("", r)
  let digits := ds.takeWhile Char.isDigit
  let after := (ds.drop digits.length).dropWhile fun c => c == ' ' || c == '\t'
  match digits? (String.ofList digits), after with
  | some n, [] => .ok (if sign = "-" then -(n : Int) else n)
  | _, _ => .error ("invalid integer " ++ quotedText w)

/-- Compares two numbers. -/
def compareBy (op : String) (a b : Int) : Bool :=
  match op with
  | "-eq" => a == b
  | "-ne" => a != b
  | "-lt" => a < b
  | "-le" => a ≤ b
  | "-gt" => b < a
  | _ => b ≤ a

/-- Takes a number: one word, or the length of the word after a sign. -/
def amount (s : Scene) (isLength : Bool) : Reading Int := do
  if isLength then
    discard s.word
    return ((← s.word).length : Nat)
  else
    let w ← s.word
    match integer w with
    | .ok n => return n
    | .error e => throw e

/-- An operator between two words. -/
def binary (s : Scene) (leftLength : Bool) : Reading Bool := do
  let ws ← get
  let op := ws[if leftLength then 2 else 1]?.getD ""
  let after := ws.drop (if leftLength then 3 else 2)
  let rightLength := 2 ≤ after.length && after.headD "" == "-l"
  if ["-eq", "-ne", "-lt", "-le", "-gt", "-ge"].contains op then
    let a ← s.amount leftLength
    discard s.word
    let b ← s.amount rightLength
    return compareBy op a b
  else
    let a ← s.word
    discard s.word
    let b ← s.word
    match Test.pairTest s.place a (if op = "==" then "=" else op) b with
    | .ok r => return r
    | .error e => throw e

/-- An operator before a word. -/
def unary (s : Scene) : Reading Bool := do
  let op ← s.word
  if !unaries.contains ((op.toList[1]?).getD ' ') then throw (quotedText op ++ ": unary operator expected")
  let w ← s.word
  if op = "-t" then
    match integer w with
    | .ok _ => return false
    | .error e => throw e
  else
    match Test.singleTest s.place op w with
    | .ok r => return r
    | .error e => throw e

/-- Whether a word is a dash and a letter. -/
def isDashed (w : String) : Bool :=
  match w.toList with
  | ['-', _] => true
  | _ => false

/-- One word, which holds if it is not empty. -/
def one (s : Scene) : Reading Bool := do return (← s.word) ≠ ""

/-- Two words. -/
def two (s : Scene) : Reading Bool := do
  let w := (← get).headD ""
  if w = "!" then
    discard s.word
    return !(← s.one)
  else if isDashed w then s.unary
  else s.missing

/-- Three words; a question joined from others is read by `joined`. -/
def three (s : Scene) (joined : Reading Bool) : Reading Bool := do
  let ws ← get
  let middle := ws[1]?.getD ""
  if binaries.contains middle then s.binary false
  else if ws.headD "" = "!" then
    discard s.word
    return !(← s.two)
  else if ws.headD "" = "(" && ws[2]? = some ")" then
    discard s.word
    let r ← s.one
    discard s.word
    return r
  else if middle = "-a" || middle = "-o" then joined
  else throw (quotedText middle ++ ": binary operator expected")

/-- How many words stand in parentheses that have just opened. -/
def enclosed (ws : List String) : Nat :=
  let n := ((ws.drop 1).takeWhile (· ≠ ")")).length + 1
  if 4 < n then ws.length else n

/-- A part of a question; so many words in parentheses are read by `whole`. -/
def part (s : Scene) (whole : Nat → Reading Bool) : Nat → Reading Bool
  | 0 => s.missing
  | n + 1 => do
    let ws ← get
    match ws with
    | [] => s.missing
    | "!" :: _ => do
      discard s.word
      return !(← s.part whole n)
    | "(" :: _ => do
      discard s.word
      if (← get).isEmpty then s.missing
      let r ← whole (enclosed (← get))
      match ← get with
      | ")" :: _ => discard s.word
      | w :: _ => throw (inQuotes ")" ++ " expected, found " ++ quotedText w)
      | [] => throw (inQuotes ")" ++ " expected")
      return r
    | w :: _ =>
      if w = "-l" && 4 ≤ ws.length && binaries.contains (ws[2]?.getD "") then s.binary true
      else if 3 ≤ ws.length && binaries.contains (ws[1]?.getD "") then s.binary false
      else if isDashed w then s.unary
      else s.one

/-- Questions joined by an operator. -/
def joinedBy (s : Scene) (op : String) (combine : Bool → Bool → Bool) (inner : Reading Bool) : Nat → Reading Bool
  | 0 => inner
  | n + 1 => do
    let r ← inner
    if (← get).headD "" = op then
      discard s.word
      return combine r (← s.joinedBy op combine inner n)
    else return r

/-- A question of so many words; `depth` bounds how deep parentheses stand in each other. -/
def question (s : Scene) : Nat → Nat → Reading Bool
  | 0, _ => s.missing
  | depth + 1, count => do
    let size := (← get).length + 1
    let inner := s.part (s.question depth) size
    let joined := s.joinedBy "-o" (· || ·) (s.joinedBy "-a" (· && ·) inner size) size
    let ws ← get
    match count with
    | 1 => s.one
    | 2 => s.two
    | 3 => s.three joined
    | 4 =>
      if ws.headD "" = "!" then
        discard s.word
        return !(← s.three joined)
      else if ws.headD "" = "(" && ws[3]? = some ")" then
        discard s.word
        let r ← s.two
        discard s.word
        return r
      else joined
    | _ => joined

end Scene

/-- The answer to a question that has to take all words. -/
def answer (place : Place) (ws : List String) : Except String Bool := do
  match ws.getLast? with
  | none => return false
  | some lastWord =>
    let (r, rest) ← (Scene.question ⟨place, lastWord⟩ (ws.length + 1) ws.length).run ws
    match rest with
    | w :: _ => throw ("extra argument " ++ quotedText w)
    | [] => return r

/-- Answers a question; in brackets if `bracket` says so. -/
def program (bracket : Bool) : Program := do
  let r ← read
  if bracket && r.args.getLast? ≠ some "]" then fail "missing ']'" 2
  match answer ⟨(← get).files, r.cwd⟩ (if bracket then r.args.dropLast else r.args) with
  | .ok b => leave (if b then 0 else 1)
  | .error e => fail e 2

end ServerTrials.Client.Utility.Condition
