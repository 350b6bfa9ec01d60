import ServerTrials.Client.Files
import ServerTrials.Client.Shell.Arithmetic

/-!
Tests: questions about texts, numbers and files, joined by `!`, `-a`, `-o` and parentheses.

A word may be an operator or a text by where it stands. A reader of a question answers it with the words
from the last one it has taken.
-/

namespace ServerTrials.Client.Utility.Test

/-- What an operator joins. -/
inductive Kind where
  | unary
  | binary
  | join
  | paren
  deriving DecidableEq, Repr

/-- The operators about one text or file. -/
def unaries : List String :=
  ["-r", "-w", "-x", "-e", "-f", "-d", "-c", "-b", "-p", "-u", "-g", "-k", "-s", "-t", "-z", "-n", "-h",
    "-L", "-O", "-G", "-S"]

/-- The operators about two texts, numbers or files. -/
def binaries : List String :=
  ["=", "!=", "<", ">", "-eq", "-ne", "-ge", "-gt", "-le", "-lt", "-nt", "-ot", "-ef"]

/-- The kind of an operator. -/
def kindOf? (s : String) : Option Kind :=
  if unaries.contains s then some .unary
  else if binaries.contains s then some .binary
  else if ["!", "-a", "-o"].contains s then some .join
  else if ["(", ")"].contains s then some .paren
  else none

/-- Whether the first word, an operator about one text, is a text because of what follows it. -/
def isText (ws : List String) : Bool :=
  match ws with
  | [_] => true
  | [_, _] => false
  | _ :: s :: _ => kindOf? s == some .binary
  | [] => true

/-- The operator that the first word is. -/
def operator? (ws : List String) : Option (String × Kind) :=
  match ws with
  | [] => none
  | s :: rest =>
    match kindOf? s with
    | some .unary => if isText ws then none else some (s, .unary)
    | some .paren => if s == "(" && rest.isEmpty then none else some (s, .paren)
    | some k => some (s, k)
    | none => none

/-- Where tests look for files. -/
structure Place where
  files : Files
  cwd : String

/-- The answer to a question about a file. -/
def fileTest (place : Place) (op path : String) : Bool :=
  match place.files.find place.cwd path with
  | .error _ => false
  | .ok (_, n) =>
    match op, n with
    | "-e", _ | "-r", _ | "-w", _ | "-O", _ | "-G", _ => true
    | "-f", .file .. => true
    | "-d", .directory => true
    | "-c", .device _ => true
    | "-s", .file content _ => content ≠ ""
    | "-s", .directory => true
    | "-x", .directory => true
    | "-x", .file _ runs => runs
    | "-h", _ | "-L", _ =>
      Files.pointers.any fun p => "/" ++ p.1 == Files.absolute place.cwd path
    | _, _ => false

/-- The number that a word spells. -/
def number (s : String) : Except String Int :=
  let cs := s.toList.dropWhile Shell.Arithmetic.isBlank
  let (negative, ds) := match cs with
    | '-' :: r => (true, r)
    | '+' :: r => (false, r)
    | r => (false, r)
  let digits := ds.takeWhile Char.isDigit
  if digits.isEmpty || !(ds.drop digits.length).all Shell.Arithmetic.isBlank then
    .error ("Illegal number: " ++ s)
  else
    let n : Int := ((String.ofList digits).toNat?.getD 0 : Nat)
    let n := if negative then -n else n
    if Shell.Arithmetic.clamp n = n then .ok n else .error ("Illegal number: " ++ s)

/-- The answer to a question about two words. -/
def pairTest (place : Place) (a op b : String) : Except String Bool :=
  let numbers (f : Int → Int → Bool) : Except String Bool := do return f (← number a) (← number b)
  match op with
  | "=" => .ok (a == b)
  | "!=" => .ok (a != b)
  | "<" => .ok (a < b)
  | ">" => .ok (b < a)
  | "-eq" => numbers (· == ·)
  | "-ne" => numbers (· != ·)
  | "-lt" => numbers fun x y => x < y
  | "-le" => numbers fun x y => x ≤ y
  | "-gt" => numbers fun x y => y < x
  | "-ge" => numbers fun x y => y ≤ x
  | "-ef" =>
    match place.files.find place.cwd a, place.files.find place.cwd b with
    | .ok (p, _), .ok (q, _) => .ok (p == q)
    | _, _ => .ok false
  | _ => .ok false

/-- The answer to a question about one word. -/
def singleTest (place : Place) (op a : String) : Except String Bool :=
  match op with
  | "-z" => .ok (a == "")
  | "-n" => .ok (a != "")
  | "-t" => do
    discard (number a)
    return false
  | op => .ok (fileTest place op a)

/-- An answer, and the words from the last one taken. -/
abbrev Answer := Except String (Bool × List String)

/-- A question without joins; whole questions in parentheses are read by `whole`. -/
def primary (place : Place) (whole : List String → Answer) (ws : List String) : Answer :=
  match ws, operator? ws with
  | [], _ => .ok (false, [])
  | "(" :: rest, some (_, .paren) =>
    match operator? rest with
    | some (")", _) => .ok (false, rest)
    | _ => do
      let (b, last) ← whole rest
      match last.drop 1 with
      | ")" :: more => .ok (b, ")" :: more)
      | _ => .error "closing paren expected"
  | _ :: rest, some (op, .unary) =>
    match rest with
    | a :: _ => do .ok (← singleTest place op a, rest)
    | [] => .error (op ++ ": argument expected")
  | a :: rest, _ =>
    match operator? rest with
    | some (op, .binary) =>
      match rest with
      | _ :: b :: more => do .ok (← pairTest place a op b, b :: more)
      | _ => .error (op ++ ": argument expected")
    | _ => .ok (a != "", ws)

/-- A question that may be negated. -/
def negation (place : Place) (whole : List String → Answer) : Nat → List String → Answer
  | 0, ws => primary place whole ws
  | n + 1, ws =>
    match ws, operator? ws with
    | "!" :: rest, some _ =>
      if rest.isEmpty then .ok (true, ws)
      else do
        let (b, last) ← negation place whole n rest
        .ok (!b, last)
    | _, _ => primary place whole ws

/-- Questions joined by one operator. -/
def joined (op : String) (combine : Bool → Bool → Bool) (one : List String → Answer) :
    Nat → List String → Answer
  | 0, ws => one ws
  | n + 1, ws => do
    let (b, last) ← one ws
    match last.drop 1 with
    | s :: rest =>
      if s = op then do
        let (c, last) ← joined op combine one n rest
        .ok (combine b c, last)
      else .ok (b, last)
    | [] => .ok (b, last)

/-- A whole question; `depth` bounds how deep questions stand in each other. -/
def whole (place : Place) : Nat → List String → Answer
  | 0, ws => .ok (false, ws)
  | depth + 1, ws =>
    let size := ws.length + 1
    let one := negation place (whole place depth) size
    joined "-o" (· || ·) (joined "-a" (· && ·) one size) size ws

/-- The answer of a whole question that has to take all words. -/
def all (place : Place) (ws : List String) : Except String Bool := do
  let (b, last) ← whole place (ws.length + 1) ws
  match last with
  | w :: _ :: _ => .error (w ++ ": unexpected operator")
  | _ => .ok b

/-- The answer of two words compared, which have to be all words. -/
def comparison (place : Place) (a op b : String) : Except String Bool := pairTest place a op b

/-- The answer of a test. Three and four words are taken by their number first. -/
def answer (place : Place) (ws : List String) : Except String Bool :=
  match ws with
  | [] => .ok false
  | [a, op, b] =>
    if binaries.contains op then comparison place a op b
    else if a == "(" && b == ")" then all place [op]
    else if a == "!" then do return !(← all place [op, b])
    else all place ws
  | [a, b, c, d] =>
    if a == "(" && d == ")" then all place [b, c]
    else if a == "!" then
      if binaries.contains c then do return !(← comparison place b c d)
      else do return !(← all place [b, c, d])
    else all place ws
  | ws => all place ws

end ServerTrials.Client.Utility.Test
