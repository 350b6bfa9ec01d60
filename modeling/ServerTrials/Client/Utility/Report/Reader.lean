import ServerTrials.Client.Regex.Reader
import ServerTrials.Client.Utility.Basic
import ServerTrials.Client.Utility.Printf
import ServerTrials.Client.Utility.Report.Script

/-!
Reading scripts of the report writer.

A script is cut into tokens first. A slash begins an expression where no value stands before it, and divides
where one does. The tokens are then read by the strength of the operators, the weakest first.
-/

namespace ServerTrials.Client.Utility.Report

/-! ### Tokens -/

/-- A piece of a script. -/
inductive Token where
  | number (x : Binary64)
  | text (s : String)
  | regex (s : String)
  | word (s : String)
  /-- A name right before an opening parenthesis. -/
  | called (s : String)
  | sign (s : String)
  /-- A character that has no place in a script. -/
  | stray (c : Char)
  | lineEnd
  deriving DecidableEq, Repr

/-- The words that are no names of variables. -/
def keywords : List String :=
  ["BEGIN", "END", "break", "continue", "delete", "do", "else", "exit", "for", "function", "getline", "if",
    "in", "next", "print", "printf", "return", "while"]

/-- The functions of the language. -/
def builtinNames : List String :=
  ["length", "substr", "index", "split", "sub", "gsub", "match", "sprintf", "int", "sqrt", "tolower", "toupper",
    "close", "fflush", "system"]

/-- Whether a value may end with a token, so that a slash after it divides. -/
def Token.endsValue : Token → Bool
  | .number _ | .text _ | .regex _ => true
  | .word w => !keywords.contains w
  | .sign s => [")", "]", "$", "++", "--"].contains s
  | _ => false

/-- Whether a token lets a script go on in the next line. -/
def Token.goesOn : Token → Bool
  | .sign s => ["\x7b", ",", "&&", "||"].contains s
  | .word w => w = "else" || w = "do"
  | .lineEnd => true
  | _ => false

/-- The signs of two characters. -/
def longSigns : List String :=
  ["&&", "||", "++", "--", "+=", "-=", "*=", "/=", "%=", "^=", "==", "<=", ">=", "!=", ">>", "!~"]

/-- The text of a string up to its closing quote, and what follows it. -/
def readText : Nat → List Char → Option (List Char × List Char)
  | 0, _ => none
  | n + 1, cs =>
    match cs with
    | [] | '\n' :: _ => none
    | '"' :: rest => some ([], rest)
    | '\\' :: '"' :: rest => (readText n rest).map fun r => ('"' :: r.1, r.2)
    | '\\' :: '/' :: rest => (readText n rest).map fun r => ('\\' :: '/' :: r.1, r.2)
    | '\\' :: '\n' :: rest => readText n rest
    | '\\' :: c :: rest =>
      let (text, rest) := readEscape (c :: rest)
      (readText n rest).map fun r => (text ++ r.1, r.2)
    | c :: rest => (readText n rest).map fun r => (c :: r.1, r.2)

/-- Where in an expression a character stands. -/
inductive Where where
  | outside
  | inSet
  | inClass
  deriving DecidableEq, Repr

/-- An expression up to its closing slash, and what follows it. A slash in a set does not close it. -/
def readSlashed : Nat → Where → List Char → Option (List Char × List Char)
  | 0, _, _ => none
  | n + 1, place, cs =>
    let go (front : List Char) (place : Where) (rest : List Char) : Option (List Char × List Char) :=
      (readSlashed n place rest).map fun r => (front ++ r.1, r.2)
    match place, cs with
    | _, [] | _, '\n' :: _ => none
    | place, '\\' :: '/' :: rest => go ['/'] place rest
    | place, '\\' :: c :: rest => go ['\\', c] place rest
    | .outside, '/' :: rest => some ([], rest)
    | .outside, '[' :: '^' :: ']' :: rest => go ['[', '^', ']'] .inSet rest
    | .outside, '[' :: ']' :: rest => go ['[', ']'] .inSet rest
    | .outside, '[' :: rest => go ['['] .inSet rest
    | .inSet, '[' :: ':' :: rest => go ['[', ':'] .inClass rest
    | .inSet, ']' :: rest => go [']'] .outside rest
    | .inClass, ':' :: ']' :: rest => go [':', ']'] .inSet rest
    | place, c :: rest => go [c] place rest

/-- Whether a character may begin a name. -/
def beginsName (c : Char) : Bool := c.isAlpha || c == '_'

/-- What is wrong with a script. -/
inductive Fault where
  | inLine (line : Nat) (wording : String)
  /-- The fault is with the first of the tokens that are left. -/
  | before (left : Nat) (wording : String)
  | stray (left : Nat) (c : Char)
  | unfinished
  deriving DecidableEq, Repr

/-- The tokens of a script with their lines; `last` is the one before. -/
def tokens : Nat → Nat → Token → List Char → Except Fault (List (Token × Nat))
  | 0, _, _, _ => .ok []
  | n + 1, line, last, cs => do
    let token (t : Token) (rest : List Char) : Except Fault (List (Token × Nat)) := do
      return (t, line) :: (← tokens n line t rest)
    let runaway (kind : String) (quote : Char) (rest : List Char) : Except Fault (List (Token × Nat)) :=
      .error (.inLine line ("runaway " ++ kind ++ " " ++
        String.ofList (quote :: (rest.takeWhile (· != '\n')).take 10) ++ " ..."))
    match cs with
    | [] => return []
    | '\n' :: rest =>
      if last.goesOn then tokens n (line + 1) last rest
      else return (.lineEnd, line) :: (← tokens n (line + 1) .lineEnd rest)
    | '\\' :: '\n' :: rest => tokens n (line + 1) last rest
    | '#' :: rest => tokens n line last (rest.dropWhile (· != '\n'))
    | '"' :: rest =>
      match readText (rest.length + 1) rest with
      | some (text, rest) => token (.text (String.ofList text)) rest
      | none => runaway "string constant" '"' rest
    | '/' :: rest =>
      if last.endsValue then
        match rest with
        | '=' :: rest => token (.sign "/=") rest
        | rest => token (.sign "/") rest
      else
        match readSlashed (rest.length + 1) .outside rest with
        | some (body, rest) => token (.regex (String.ofList body)) rest
        | none => runaway "regular expression" '/' rest
    | c :: rest =>
      if isGap c then tokens n line last rest
      else if beginsName c then
        let name := cs.takeWhile fun c => beginsName c || c.isDigit
        let rest := cs.drop name.length
        let name := String.ofList name
        token (if rest.head? == some '(' && !keywords.contains name then .called name else .word name) rest
      else if c.isDigit || (c == '.' && (rest.head?.map Char.isDigit).getD false) then
        match Real.takeDecimal cs with
        | some (_, value, power, rest) => token (.number (Real.nearest false value power)) rest
        | none => .error (.inLine line "syntax error")
      else
        let two := String.ofList (cs.take 2)
        if longSigns.contains two then token (.sign two) (rest.drop 1)
        else if "\x7b\x7d()[];,+-*/%^!<>|?:~$=".toList.contains c then token (.sign (String.ofList [c])) rest
        else token (.stray c) rest

/-! ### Expressions -/

/-- The tokens that are left. -/
abbrev Reader := StateT (List Token) (Except Fault)

/-- The text of a token in complaints. -/
def Token.shown : Token → String
  | .number x => Real.general x.num x.den 6 false false
  | .text s | .regex s | .word s | .called s | .sign s => s
  | .stray c => String.ofList [c]
  | .lineEnd => "end of line"

/-- Refuses the token that stands next. -/
def refuse {α : Type} : Reader α := do
  match ← get with
  | .stray c :: rest => throw (.stray (rest.length + 1) c)
  | t :: rest => throw (.before (rest.length + 1) ("syntax error at or near " ++ t.shown))
  | [] => throw .unfinished

/-- Takes a sign if it stands next. -/
def takes (s : String) : Reader Bool := do
  match ← get with
  | t :: rest =>
    if t = .sign s then
      set rest
      return true
    else return false
  | [] => return false

/-- Takes a word if it stands next. -/
def takesWord (s : String) : Reader Bool := do
  match ← get with
  | t :: rest =>
    if t = .word s then
      set rest
      return true
    else return false
  | [] => return false

/-- Takes a sign that has to stand next. -/
def expect (s : String) : Reader Unit := do
  if !(← takes s) then refuse

/-- Takes line ends. -/
def lineEnds : Reader Unit := modify fun ts => ts.dropWhile (· == .lineEnd)

/-- What is wrong with a regular expression, if its groups and choices are: `depth` groups are open, and
`opening` says whether nothing stands before. Each turn takes a character. -/
def regexFault? : Nat → Nat → Bool → List Char → Option String
  | 0, _, _, _ => none
  | n + 1, depth, opening, cs =>
    let operand (next : Option String) : Option String := if opening then some "missing operand" else next
    match cs with
    | [] => if depth = 0 then operand none else some "missing ')'"
    | '\\' :: _ :: rest => regexFault? n depth false rest
    | '[' :: rest =>
      match Regex.readBracket rest with
      | .ok (_, rest) => regexFault? n depth false rest
      | .error _ => some "bad class -- [], [^] or ["
    | '(' :: rest => regexFault? n (depth + 1) true rest
    | ')' :: rest =>
      if depth = 0 then regexFault? n 0 false rest else operand (regexFault? n (depth - 1) false rest)
    | '|' :: rest => operand (regexFault? n depth true rest)
    | '^' :: c :: rest =>
      if opening && (c == '*' || c == '+') then some "syntax error ^* or ^+"
      else regexFault? n depth false (c :: rest)
    | c :: rest =>
      if "*+?".toList.contains c then operand (regexFault? n depth false rest)
      else regexFault? n depth false rest

/-- The regular expression that a text spells. -/
def regexOf (s : String) : Except String Regex :=
  let failed (wording : String) : Except String Regex :=
    .error ("regular expression compile failed (" ++ wording ++ ")\n" ++ s)
  match if s = "" then none else regexFault? (s.length + 1) 0 true s.toList with
  | some wording => failed wording
  | none =>
    match Regex.ofString { extended := true } s with
    | .ok r => .ok r
    | .error _ => failed "bad interval expression"

/-- Which operators an expression may not hold, because they belong to what it stands in. -/
structure Limits where
  noIn : Bool := false
  noGreater : Bool := false
  deriving DecidableEq, Repr

/-- Reads an expression. -/
abbrev ExprReader := Limits → Reader Expr

/-- Expressions with commas between them. -/
def separated (one : Reader Expr) : Nat → Reader (List Expr)
  | 0 => return []
  | n + 1 => do
    let e ← one
    if ← takes "," then
      lineEnds
      return e :: (← separated one n)
    else return [e]

/-- Takes a closing parenthesis. -/
def closing : Reader Unit := do
  if !(← takes ")") then
    match ← get with
    | .stray c :: rest => throw (.stray (rest.length + 1) c)
    | t :: rest => throw (.before (rest.length + 1) ("missing ) near " ++ t.shown))
    | [] => throw (.before 0 "missing ) near end of file")

/-- Expressions between parentheses that have opened. -/
def arguments (whole : ExprReader) : Reader (List Expr) := do
  if ← takes ")" then return []
  let es ← separated (whole {}) (← get).length
  closing
  return es

/-- A call of a function. -/
def callOf (name : String) (args : List Expr) : Expr :=
  if builtinNames.contains name then .builtin name args else .call name args

/-- Whether a place can be assigned to. -/
def Expr.isTarget : Expr → Bool
  | .name _ | .element .. | .field _ => true
  | _ => false

/-- A variable, a field or an element of an array. -/
def target? (whole : ExprReader) (fieldOf : Reader Expr) : Reader (Option Expr) := do
  match ← get with
  | .sign "$" :: rest => do
    set rest
    return some (.field (← fieldOf))
  | .word w :: rest =>
    if keywords.contains w || builtinNames.contains w then return none
    else do
      set rest
      if ← takes "[" then
        let es ← separated (whole {}) (← get).length
        expect "]"
        return some (.element w es)
      else return some (.name w)
  | _ => return none

/-- A value that stands by itself. -/
def primary (whole : ExprReader) (tight : Reader Expr) : Reader Expr := do
  match ← get with
  | .number x :: rest => do
    set rest
    return .number x
  | .text s :: rest => do
    set rest
    return .text s
  | .regex s :: rest => do
    set rest
    match regexOf s with
    | .ok r => return .regex r
    | .error e => throw (.before ((← get).length + 1) e)
  | .called f :: .sign "(" :: rest => do
    set rest
    return callOf f (← arguments whole)
  | .word "length" :: rest => do
    set rest
    return .builtin "length" []
  | .word "getline" :: rest => do
    set rest
    let place ← target? whole tight
    if ← takes "<" then return .fetch place (some (← tight)) else return .fetch place none
  | .sign "(" :: rest => do
    set rest
    let es ← separated (whole {}) (rest.length + 1)
    closing
    return .group es
  | .sign "-" :: rest => do
    set rest
    return .negate (← tight)
  | .sign "+" :: rest => do
    set rest
    return .plus (← tight)
  | .sign "!" :: rest => do
    set rest
    return .not (← tight)
  | .sign "++" :: rest => do
    set rest
    return .count (← tight) true true
  | .sign "--" :: rest => do
    set rest
    return .count (← tight) false true
  | _ =>
    match ← target? whole tight with
    | some e => return e
    | none => refuse

/-- A value that may be counted up or down after it was taken. -/
def counted (whole : ExprReader) (tight : Reader Expr) : Reader Expr := do
  let e ← primary whole tight
  if e.isTarget then
    if ← takes "++" then return .count e true false
    if ← takes "--" then return .count e false false
  return e

/-- A value right after a sign that binds more than any other. -/
def tightest (whole : ExprReader) : Nat → Reader Expr
  | 0 => refuse
  | n + 1 => primary whole (tightest whole n)

/-- A power; the sign before it is taken after it. -/
def power (whole : ExprReader) : Nat → Reader Expr
  | 0 => refuse
  | n + 1 => do
    match ← get with
    | .sign "-" :: rest => do
      set rest
      return .negate (← power whole n)
    | .sign "+" :: rest => do
      set rest
      return .plus (← power whole n)
    | .sign "!" :: rest => do
      set rest
      return .not (← power whole n)
    | _ => do
      let e ← counted whole (tightest whole n)
      if ← takes "^" then return .arith .pow e (← power whole n) else return e

/-- Values joined by operators of the same strength. -/
def chain (ops : List (String × Arith)) (one : Reader Expr) : Nat → Expr → Reader Expr
  | 0, e => return e
  | n + 1, e => do
    match ← get with
    | .sign s :: rest =>
      match ops.find? (·.1 == s) with
      | some (_, op) => do
        set rest
        chain ops one n (.arith op e (← one))
      | none => return e
    | _ => return e

/-- Products. -/
def product (whole : ExprReader) : Reader Expr := do
  let size := (← get).length + 1
  let e ← power whole size
  chain [("*", .mul), ("/", .div), ("%", .rem)] (power whole size) size e

/-- Sums. -/
def sum (whole : ExprReader) : Reader Expr := do
  let e ← product whole
  chain [("+", .add), ("-", .sub)] (product whole) ((← get).length + 1) e

/-- Whether a token may begin a value that is joined to the one before it. -/
def Token.beginsJoined : Token → Bool
  | .number _ | .text _ | .called _ => true
  | .word w => !keywords.contains w
  | .sign s => ["$", "!", "(", "-", "+", "++", "--"].contains s
  | _ => false

/-- Texts joined by standing next to each other. -/
def joins (whole : ExprReader) : Nat → Expr → Reader Expr
  | 0, e => return e
  | n + 1, e => do
    match ← get with
    | t :: _ => if t.beginsJoined then joins whole n (.join e (← sum whole)) else return e
    | [] => return e

/-- The comparisons by their signs. -/
def comparisons : List (String × Comparison) :=
  [("<", .less), ("<=", .atMost), ("==", .equal), ("!=", .unequal), (">", .greater), (">=", .atLeast)]

/-- A comparison. -/
def compared (whole : ExprReader) (l : Limits) : Reader Expr := do
  let first ← sum whole
  let a ← joins whole ((← get).length + 1) first
  match ← get with
  | .sign s :: rest =>
    match comparisons.find? (·.1 == s) with
    | some (_, op) =>
      if s = ">" && l.noGreater then return a
      else do
        set rest
        let first ← sum whole
        return .comparison op a (← joins whole ((← get).length + 1) first)
    | none => return a
  | _ => return a

/-- Questions whether something matches. -/
def matched (whole : ExprReader) (l : Limits) : Nat → Expr → Reader Expr
  | 0, e => return e
  | n + 1, e => do
    if ← takes "~" then matched whole l n (.isMatch e (← compared whole l) false)
    else if ← takes "!~" then matched whole l n (.isMatch e (← compared whole l) true)
    else return e

/-- Questions whether something is in an array. -/
def contained (l : Limits) : Nat → Expr → Reader Expr
  | 0, e => return e
  | n + 1, e => do
    if l.noIn then return e
    match ← get with
    | .word "in" :: .word a :: rest => do
      set rest
      let index := match e with
        | .group es => es
        | e => [e]
      contained l n (.isIn index a)
    | _ => return e

/-- Values of which all hold. -/
def conjunction (whole : ExprReader) (l : Limits) : Nat → Reader Expr
  | 0 => refuse
  | n + 1 => do
    let size := (← get).length + 1
    let e ← compared whole l
    let e ← matched whole l size e
    let e ← contained l size e
    if ← takes "&&" then
      lineEnds
      return .and e (← conjunction whole l n)
    else return e

/-- Values of which one holds. -/
def disjunction (whole : ExprReader) (l : Limits) : Nat → Reader Expr
  | 0 => refuse
  | n + 1 => do
    let e ← conjunction whole l ((← get).length + 1)
    if ← takes "||" then
      lineEnds
      return .or e (← disjunction whole l n)
    else return e

/-- The signs that change a variable. -/
def updates : List (String × Arith) :=
  [("+=", .add), ("-=", .sub), ("*=", .mul), ("/=", .div), ("%=", .rem), ("^=", .pow)]

/-- A whole expression; `depth` bounds how deep expressions stand in each other. -/
def expression : Nat → ExprReader
  | 0, _ => refuse
  | depth + 1, l => do
    let whole := expression depth
    let e ← disjunction whole l ((← get).length + 1)
    if ← takes "?" then
      lineEnds
      let a ← whole l
      lineEnds
      expect ":"
      lineEnds
      return .choice e a (← whole l)
    match e, ← get with
    | .group [_], _ => return e
    | e, .sign s :: rest =>
      if !e.isTarget then return e
      else if s = "=" then do
        set rest
        lineEnds
        return .assign e (← whole l)
      else
        match updates.find? (·.1 == s) with
        | some (_, op) => do
          set rest
          lineEnds
          return .update op e (← whole l)
        | none => return e
    | e, _ => return e

/-- An expression. -/
def whole (l : Limits) : Reader Expr := do expression ((← get).length + 1) l

/-! ### Statements -/

/-- The end of a simple statement. -/
def statementEnd : Reader Unit := do
  match ← get with
  | .sign ";" :: rest => do
    set rest
    lineEnds
  | .lineEnd :: _ => lineEnds
  | .sign "\x7d" :: _ | [] => pure ()
  | _ => refuse

/-- Where the output of a statement goes. -/
def outlet? : Reader (Option Outlet) := do
  let path : Reader Expr := do
    let size := (← get).length + 1
    let first ← tightest whole size
    joins whole size first
  if ← takes ">" then return some (.replace (← path))
  if ← takes ">>" then return some (.append (← path))
  if ← takes "|" then return some (.command (← path))
  return none

/-- What is written, and where. -/
def written : Reader (List Expr × Option Outlet) := do
  let ends := match ← get with
    | [] | .sign ";" :: _ | .sign "\x7d" :: _ | .lineEnd :: _ | .sign ">" :: _ | .sign ">>" :: _
    | .sign "|" :: _ => true
    | _ => false
  let es ← if ends then pure [] else separated (whole { noGreater := true }) ((← get).length + 1)
  let es := match es with
    | [.group es] => es
    | es => es
  return (es, ← outlet?)

/-- A statement without a body. -/
def simple : Reader Statement := do
  match ← get with
  | .word "print" :: rest => do
    set rest
    let (es, outlet) ← written
    return .print es outlet
  | .word "printf" :: rest => do
    set rest
    let (es, outlet) ← written
    if es.isEmpty then refuse
    return .printf es outlet
  | .word "delete" :: .word a :: .sign "[" :: rest => do
    set rest
    let es ← separated (whole {}) (rest.length + 1)
    expect "]"
    return .delete a es
  | .word "delete" :: .word a :: rest => do
    set rest
    return .delete a []
  | _ => return .expr (← whole {})

/-- The value after a word, if one stands there. -/
def optional : Reader (Option Expr) := do
  match ← get with
  | [] | .sign ";" :: _ | .sign "\x7d" :: _ | .lineEnd :: _ => return none
  | _ => return some (← whole {})

/-- Statements up to the closing brace. -/
def statements (one : Reader Statement) : Nat → Reader (List Statement)
  | 0 => refuse
  | n + 1 => do
    lineEnds
    if ← takes "\x7d" then return []
    else if ← takes ";" then statements one n
    else return (← one) :: (← statements one n)

/-- The rest of a loop that counts, after its opening parenthesis. -/
def countingLoop (body : Reader (List Statement)) : Reader Statement := do
  let start ← if ← takes ";" then pure [] else do
    let s ← simple
    expect ";"
    pure [s]
  lineEnds
  let c ← if ← takes ";" then pure none else do
    let e ← whole {}
    expect ";"
    pure (some e)
  lineEnds
  let next ← if ← takes ")" then pure [] else do
    let s ← simple
    expect ")"
    pure [s]
  return .loopFrom start c next (← body)

/-- A statement; `depth` bounds how deep statements stand in each other. -/
def statement : Nat → Reader Statement
  | 0 => refuse
  | depth + 1 => do
    let body : Reader (List Statement) := do
      lineEnds
      if ← takes ";" then
        lineEnds
        return []
      return [← statement depth]
    match ← get with
    | .sign "\x7b" :: rest => do
      set rest
      let ss ← statements (statement depth) (rest.length + 1)
      discard (takes ";")
      lineEnds
      return .block ss
    | .word "if" :: .sign "(" :: rest => do
      set rest
      let c ← whole {}
      expect ")"
      let a ← body
      lineEnds
      if ← takesWord "else" then return .choice c a (← body) else return .choice c a []
    | .word "while" :: .sign "(" :: rest => do
      set rest
      let c ← whole {}
      expect ")"
      return .loop c (← body)
    | .word "do" :: rest => do
      set rest
      let b ← body
      lineEnds
      if !(← takesWord "while") then refuse
      expect "("
      let c ← whole {}
      expect ")"
      statementEnd
      return .loopAfter b c
    | .word "for" :: .sign "(" :: .word v :: .word "in" :: .word a :: .sign ")" :: rest => do
      set rest
      return .loopOver v a (← body)
    | .word "for" :: .sign "(" :: rest => do
      set rest
      countingLoop body
    | .word "break" :: rest => do
      set rest
      statementEnd
      return .leave
    | .word "continue" :: rest => do
      set rest
      statementEnd
      return .again
    | .word "next" :: rest => do
      set rest
      statementEnd
      return .next
    | .word "exit" :: rest => do
      set rest
      let e ← optional
      statementEnd
      return .exit e
    | .word "return" :: rest => do
      set rest
      let e ← optional
      statementEnd
      return .answer e
    | _ => do
      let s ← simple
      statementEnd
      return s

/-- Statements between braces. -/
def braced : Reader (List Statement) := do
  expect "\x7b"
  let size := (← get).length + 1
  statements (statement size) size

/-- The names between parentheses. -/
def parameters : Nat → Reader (List String)
  | 0 => refuse
  | n + 1 => do
    match ← get with
    | .sign ")" :: rest => do
      set rest
      return []
    | .word w :: rest => do
      set rest
      discard (takes ",")
      lineEnds
      return w :: (← parameters n)
    | _ => refuse

/-- The rules and functions of a script. -/
def items : Nat → Script → Reader Script
  | 0, s => return s
  | n + 1, s => do
    lineEnds
    let size := (← get).length + 1
    let rule (t : Trigger) (body : Option (List Statement)) : Reader Script :=
      items n { s with rules := s.rules ++ [⟨t, body⟩] }
    match ← get with
    | [] => return s
    | .sign ";" :: rest => do
      set rest
      items n s
    | .word "BEGIN" :: rest => do
      set rest
      rule .begin (some (← braced))
    | .word "END" :: rest => do
      set rest
      rule .finish (some (← braced))
    | .word "function" :: .called f :: .sign "(" :: rest => do
      set rest
      let ps ← parameters size
      lineEnds
      let body ← braced
      items n { s with functions := s.functions ++ [⟨f, ps, body⟩] }
    | .sign "\x7b" :: _ => do rule .always (some (← braced))
    | _ => do
      let first ← whole {}
      let t ← if ← takes "," then do
          lineEnds
          pure (Trigger.between s.rules.length first (← whole {}))
        else pure (Trigger.when first)
      match ← get with
      | .sign "\x7b" :: _ => do rule t (some (← braced))
      | _ => rule t none

/-- A character as complaints show it. -/
def strayShown (c : Char) : String :=
  if isShowing c then inQuotes (String.ofList [c]) else "0x" ++ String.ofList (Nat.toDigits 16 c.toNat)

/-- The wording of a fault in a script of some lines whose tokens stand in lines of their own. -/
def Fault.wording (f : Fault) (lines : List Nat) (lineCount : Nat) : String :=
  let lineOf (left : Nat) : String := toString (lines[lines.length - left]?.getD lineCount)
  match f with
  | .inLine line wording => "line " ++ toString line ++ ": " ++ wording
  | .before left wording => "line " ++ lineOf left ++ ": " ++ wording
  | .stray left c => lineOf left ++ ": unexpected character " ++ strayShown c
  | .unfinished => "line " ++ toString (lineCount + 1) ++ ": missing \x7d near end of file"

/-- The script that a text of some lines is, or the wording of what is wrong with it. -/
def Script.ofString (s : String) (lineCount : Nat) : Except String Script :=
  match tokens (s.length + 1) 1 .lineEnd s.toList with
  | .error f => .error (f.wording [] lineCount)
  | .ok ts =>
    match (items (ts.length + 1) {}).run (ts.map (·.1)) with
    | .ok (script, _) => .ok script
    | .error f => .error (f.wording (ts.map (·.2)) lineCount)

end ServerTrials.Client.Utility.Report
