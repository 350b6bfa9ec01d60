/-!
Integer expressions of a shell.

Numbers are words of 64 bits; sums and products wrap. Operators have the usual precedence, and the
second operand of `&&`, `||` and `?:` is evaluated only if it is needed. An assignment stores the text
of its value.
-/

namespace ServerTrials.Client.Shell.Arithmetic

/-- An operator between two values. -/
inductive Operator where
  | multiply
  | divide
  | remainder
  | add
  | subtract
  | shiftLeft
  | shiftRight
  | less
  | lessEqual
  | greater
  | greaterEqual
  | equal
  | different
  | bitAnd
  | bitXor
  | bitOr
  deriving DecidableEq, Repr

/-- An expression. -/
inductive Expr where
  | number (value : Int)
  | variable (name : String)
  | negate (e : Expr)
  | plus (e : Expr)
  | complement (e : Expr)
  | not (e : Expr)
  | binary (op : Operator) (a b : Expr)
  | and (a b : Expr)
  | or (a b : Expr)
  | choice (condition a b : Expr)
  | assign (name : String) (op : Option Operator) (e : Expr)
  deriving Repr

/-- What is wrong with an expression. -/
inductive Error where
  | expecting (what : String)
  | divisionByZero
  | illegalNumber (text : String)
  deriving DecidableEq, Repr

/-! ### Numbers -/

/-- The integer that agrees with a number in its last 64 bits. -/
def wrap (n : Int) : Int := Int.bmod n 18446744073709551616

/-- The largest integer of 64 bits. -/
def largest : Int := 9223372036854775807

/-- A number that does not fit stands for the one nearest to it that does. -/
def clamp (n : Int) : Int := max (-largest - 1) (min n largest)

/-- The value of a digit. -/
def digit? (base : Nat) (c : Char) : Option Nat :=
  let v := if c.isDigit then c.toNat - '0'.toNat
    else if 'a' ≤ c && c ≤ 'f' then c.toNat - 'a'.toNat + 10
    else if 'A' ≤ c && c ≤ 'F' then c.toNat - 'A'.toNat + 10
    else base
  if v < base then some v else none

/-- The digits at the front in a base, as a number, and what follows them. -/
def takeDigits (base : Nat) (cs : List Char) : Nat × List Char :=
  let ds := cs.takeWhile fun c => (digit? base c).isSome
  ((ds.filterMap (digit? base)).foldl (fun n d => n * base + d) 0, cs.drop ds.length)

/-- The number at the front: hexadecimal after `0x`, octal after a zero, else decimal. -/
def takeNumber (cs : List Char) : Nat × List Char :=
  match cs with
  | '0' :: 'x' :: c :: rest | '0' :: 'X' :: c :: rest =>
    if (digit? 16 c).isSome then takeDigits 16 (c :: rest) else (0, cs.drop 1)
  | '0' :: _ => takeDigits 8 cs
  | _ => takeDigits 10 cs

/-- Whether a character is a blank. -/
def isBlank (c : Char) : Bool := c == ' ' || c == '\t' || c == '\n'

/-- The integer that the value of a variable spells; nothing is zero. -/
def valueOf? (s : String) : Option Int :=
  let cs := s.toList.dropWhile isBlank
  let (negative, ds) := match cs with
    | '-' :: ds => (true, ds)
    | '+' :: ds => (false, ds)
    | ds => (false, ds)
  match ds with
  | [] => if cs.isEmpty then some 0 else none
  | d :: _ =>
    if !d.isDigit then none
    else
      let (n, rest) := takeNumber ds
      if rest.all isBlank then some (clamp (if negative then -(n : Int) else n)) else none

/-! ### Tokens -/

/-- A token of an expression. -/
inductive Token where
  | number (value : Int)
  | name (name : String)
  | sign (text : String)
  | other
  deriving DecidableEq, Repr

/-- The signs, longer ones before those they begin with. -/
def signs : List String :=
  ["<<=", ">>=", "&&", "||", "==", "!=", "<=", ">=", "<<", ">>", "+=", "-=", "*=", "/=", "%=", "&=",
    "^=", "|=", "+", "-", "*", "/", "%", "<", ">", "&", "^", "|", "!", "~", "?", ":", "=", "(", ")"]

/-- The tokens of a text; each turn takes a character. -/
def tokens : Nat → List Char → List Token
  | 0, _ => []
  | n + 1, cs =>
    match cs with
    | [] => []
    | c :: rest =>
      if isBlank c then tokens n rest
      else if c.isDigit then
        let (v, rest) := takeNumber cs
        .number (clamp v) :: tokens n rest
      else if c.isAlpha || c == '_' then
        let isName (c : Char) : Bool := c.isAlphanum || c == '_'
        .name (String.ofList (cs.takeWhile isName)) :: tokens n (cs.dropWhile isName)
      else
        match signs.find? fun s => s.toList.isPrefixOf cs with
        | some s => .sign s :: tokens n (cs.drop s.length)
        | none => .other :: tokens n rest

/-! ### Reading -/

/-- The operator between two values that a sign stands for, with its precedence. -/
def operator? : String → Option (Operator × Nat)
  | "*" => some (.multiply, 10)
  | "/" => some (.divide, 10)
  | "%" => some (.remainder, 10)
  | "+" => some (.add, 9)
  | "-" => some (.subtract, 9)
  | "<<" => some (.shiftLeft, 8)
  | ">>" => some (.shiftRight, 8)
  | "<" => some (.less, 7)
  | "<=" => some (.lessEqual, 7)
  | ">" => some (.greater, 7)
  | ">=" => some (.greaterEqual, 7)
  | "==" => some (.equal, 6)
  | "!=" => some (.different, 6)
  | "&" => some (.bitAnd, 5)
  | "^" => some (.bitXor, 4)
  | "|" => some (.bitOr, 3)
  | _ => none

/-- The operator that an assigning sign applies first, if it is an assigning sign. -/
def assigning? : String → Option (Option Operator)
  | "=" => some none
  | "+=" => some (some .add)
  | "-=" => some (some .subtract)
  | "*=" => some (some .multiply)
  | "/=" => some (some .divide)
  | "%=" => some (some .remainder)
  | "<<=" => some (some .shiftLeft)
  | ">>=" => some (some .shiftRight)
  | "&=" => some (some .bitAnd)
  | "^=" => some (some .bitXor)
  | "|=" => some (some .bitOr)
  | _ => none

/-- What is read, with the tokens that follow it. -/
abbrev Read := Except Error (Expr × List Token)

/-- An operand; whole expressions in parentheses are read by `whole`. -/
def readOperand (whole : List Token → Read) : Nat → List Token → Read
  | 0, _ => .error (.expecting "primary")
  | n + 1, ts =>
    match ts with
    | .number v :: rest => .ok (.number v, rest)
    | .name x :: rest => .ok (.variable x, rest)
    | .sign "-" :: rest => do
      let (e, rest) ← readOperand whole n rest
      .ok (.negate e, rest)
    | .sign "+" :: rest => do
      let (e, rest) ← readOperand whole n rest
      .ok (.plus e, rest)
    | .sign "~" :: rest => do
      let (e, rest) ← readOperand whole n rest
      .ok (.complement e, rest)
    | .sign "!" :: rest => do
      let (e, rest) ← readOperand whole n rest
      .ok (.not e, rest)
    | .sign "(" :: rest => do
      let (e, rest) ← whole rest
      match rest with
      | .sign ")" :: rest => .ok (e, rest)
      | _ => .error (.expecting "')'")
    | _ => .error (.expecting "primary")

/-- The operators that bind at least as tight as `least`, with their second operands, after a value. -/
def readBinary (operand : List Token → Read) : Nat → Nat → Expr → List Token → Read
  | 0, _, e, ts => .ok (e, ts)
  | n + 1, least, e, ts =>
    match ts with
    | .sign s :: rest =>
      match operator? s with
      | some (op, precedence) =>
        if precedence < least then .ok (e, ts)
        else do
          let (b, rest) ← operand rest
          let (b, rest) ← readBinary operand n (precedence + 1) b rest
          readBinary operand n least (.binary op e b) rest
      | none => .ok (e, ts)
    | _ => .ok (e, ts)

/-- Expressions joined by one sign. -/
def readJoined (sign : String) (join : Expr → Expr → Expr) (one : List Token → Read) :
    Nat → List Token → Read
  | 0, ts => one ts
  | n + 1, ts => do
    let (a, rest) ← one ts
    match rest with
    | .sign s :: more =>
      if s = sign then do
        let (b, rest) ← readJoined sign join one n more
        .ok (join a b, rest)
      else .ok (a, rest)
    | _ => .ok (a, rest)

/-- A whole expression; `depth` bounds how deep expressions stand in each other. -/
def readWhole : Nat → List Token → Read
  | 0, _ => .error (.expecting "primary")
  | depth + 1, ts => do
    let whole := readWhole depth
    let assignment : Option (String × Option Operator × List Token) := match ts with
      | .name x :: .sign s :: rest => (assigning? s).map fun op => (x, op, rest)
      | _ => none
    match assignment with
    | some (x, op, rest) => do
      let (e, rest) ← whole rest
      .ok (.assign x op e, rest)
    | none => do
      let size := ts.length + 1
      let operand := readOperand whole size
      let binary (ts : List Token) : Read := do
        let (a, rest) ← operand ts
        readBinary operand size 0 a rest
      let conjunction := readJoined "&&" .and binary size
      let (c, rest) ← readJoined "||" .or conjunction size ts
      match rest with
      | .sign "?" :: rest => do
        let (a, rest) ← whole rest
        match rest with
        | .sign ":" :: rest => do
          let (b, rest) ← whole rest
          .ok (.choice c a b, rest)
        | _ => .error (.expecting "':'")
      | rest => .ok (c, rest)

/-- The expression that a text spells. -/
def ofText (s : String) : Except Error Expr := do
  let ts := tokens (s.length + 1) s.toList
  let (e, rest) ← readWhole (ts.length + 2) ts
  if rest.isEmpty then .ok e else .error (.expecting "EOF")

/-! ### Values -/

/-- The integer of a truth value. -/
def truth (b : Bool) : Int := if b then 1 else 0

/-- A value as a word of 64 bits. -/
def bits (n : Int) : UInt64 := (n % 18446744073709551616).toNat.toUInt64

/-- The value of a word of 64 bits. -/
def ofBits (w : UInt64) : Int := wrap w.toNat

/-- Applies an operator. -/
def apply (op : Operator) (a b : Int) : Except Error Int :=
  match op with
  | .multiply => .ok (wrap (a * b))
  | .divide => if b = 0 then .error .divisionByZero else .ok (wrap (a.tdiv b))
  | .remainder => if b = 0 then .error .divisionByZero else .ok (wrap (a.tmod b))
  | .add => .ok (wrap (a + b))
  | .subtract => .ok (wrap (a - b))
  | .shiftLeft => .ok (wrap (a * (Nat.pow 2 (b % 64).toNat : Nat)))
  | .shiftRight => .ok (a.fdiv (Nat.pow 2 (b % 64).toNat : Nat))
  | .less => .ok (truth (a < b))
  | .lessEqual => .ok (truth (a ≤ b))
  | .greater => .ok (truth (b < a))
  | .greaterEqual => .ok (truth (b ≤ a))
  | .equal => .ok (truth (a == b))
  | .different => .ok (truth (a != b))
  | .bitAnd => .ok (ofBits (bits a &&& bits b))
  | .bitXor => .ok (ofBits (bits a ^^^ bits b))
  | .bitOr => .ok (ofBits (bits a ||| bits b))

/-- The variables set so far, the last first. -/
abbrev Sets := List (String × String)

/-- The value of a variable: the one set last, or the one it had before. -/
def lookup (before : String → Option String) (sets : Sets) (name : String) : Except Error Int :=
  match ((sets.find? (·.1 == name)).map (·.2)) <|> before name with
  | none => .ok 0
  | some text =>
    match valueOf? text with
    | some v => .ok v
    | none => .error (.illegalNumber text)

/-- The value of an expression, and the variables set by it. -/
def eval (before : String → Option String) (sets : Sets) : Expr → Except Error (Int × Sets)
  | .number v => .ok (v, sets)
  | .variable x => do .ok (← lookup before sets x, sets)
  | .negate e => do
    let (v, sets) ← eval before sets e
    .ok (wrap (-v), sets)
  | .plus e => eval before sets e
  | .complement e => do
    let (v, sets) ← eval before sets e
    .ok (wrap (-v - 1), sets)
  | .not e => do
    let (v, sets) ← eval before sets e
    .ok (truth (v == 0), sets)
  | .binary op a b => do
    let (v, sets) ← eval before sets a
    let (w, sets) ← eval before sets b
    .ok (← apply op v w, sets)
  | .and a b => do
    let (v, sets) ← eval before sets a
    if v = 0 then .ok (0, sets)
    else do
      let (w, sets) ← eval before sets b
      .ok (truth (w != 0), sets)
  | .or a b => do
    let (v, sets) ← eval before sets a
    if v ≠ 0 then .ok (1, sets)
    else do
      let (w, sets) ← eval before sets b
      .ok (truth (w != 0), sets)
  | .choice c a b => do
    let (v, sets) ← eval before sets c
    if v ≠ 0 then eval before sets a else eval before sets b
  | .assign x op e => do
    let (v, sets) ← eval before sets e
    let v ← match op with
      | none => pure v
      | some op => do apply op (← lookup before sets x) v
    .ok (v, (x, toString v) :: sets)

/-- The value of the expression that a text spells, and the variables set by it, the first first. -/
def evaluate (before : String → Option String) (s : String) : Except Error (Int × Sets) := do
  let (v, sets) ← eval before [] (← ofText s)
  .ok (v, sets.reverse)

/-- The wording of what is wrong with the expression of that text. -/
def Error.message (text : String) : Error → String
  | .expecting what => "arithmetic expression: expecting " ++ what ++ ": \"" ++ text ++ "\""
  | .divisionByZero => "arithmetic expression: division by zero: \"" ++ text ++ "\""
  | .illegalNumber value => "Illegal number: " ++ value

end ServerTrials.Client.Shell.Arithmetic
