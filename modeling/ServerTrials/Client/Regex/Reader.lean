import ServerTrials.Client.Regex.Basic

/-!
Reading regular expressions in the basic and the extended spelling.

In the basic one the signs for groups, choices and counts have a backslash before them, in the extended one
they have none.
-/

namespace ServerTrials.Client.Regex

/-- What is wrong with an expression. -/
inductive Fault where
  | emptyBracket
  | unmatchedBracket
  | unmatchedGroup
  | unmatchedClose
  | unmatchedBrace
  | badCount
  | badRepeat
  | trailingBackslash
  | badReference
  | badClass
  | badRange
  | tooBig
  deriving DecidableEq, Repr

/-- The wording of a fault. -/
def Fault.wording : Fault → String
  | .emptyBracket => "Invalid regular expression"
  | .unmatchedBracket => "Unmatched [, [^, [:, [., or [="
  | .unmatchedGroup => "Unmatched ( or \\("
  | .unmatchedClose => "Unmatched ) or \\)"
  | .unmatchedBrace => "Unmatched \\\x7b"
  | .badCount => "Invalid content of \\\x7b\\\x7d"
  | .badRepeat => "Invalid preceding regular expression"
  | .trailingBackslash => "Trailing backslash"
  | .badReference => "Invalid back reference"
  | .badClass => "Invalid character class name"
  | .badRange => "Invalid range end"
  | .tooBig => "Regular expression too big"

/-- The classes of characters that have a name. -/
def classNames : List String :=
  ["alpha", "digit", "alnum", "upper", "lower", "space", "blank", "punct", "xdigit", "cntrl", "print",
    "graph"]

/-- The parts of a set up to its closing bracket; `opening` holds at its beginning. -/
def readSet : Nat → Bool → List Char → Except Fault (List SetPart × List Char)
  | 0, _, _ => .error .unmatchedBracket
  | n + 1, opening, cs =>
    match cs with
    | [] => .error .unmatchedBracket
    | ']' :: rest =>
      if opening then ranged n ']' rest else .ok ([], rest)
    | '[' :: ':' :: rest =>
      let name := String.ofList (rest.takeWhile Char.isAlpha)
      match rest.drop name.length with
      | ':' :: ']' :: rest =>
        if classNames.contains name then do
          let (parts, rest) ← readSet n false rest
          .ok (.named name :: parts, rest)
        else .error .badClass
      | _ => .error .unmatchedBracket
    | '[' :: '=' :: c :: '=' :: ']' :: rest => do
      let (parts, rest) ← readSet n false rest
      .ok (.range c c :: parts, rest)
    | '[' :: '.' :: c :: '.' :: ']' :: rest => ranged n c rest
    | c :: rest => ranged n c rest
where
  /-- A character of a set, or the range that begins with it. -/
  ranged (n : Nat) (low : Char) (cs : List Char) : Except Fault (List SetPart × List Char) :=
    match cs with
    | '-' :: ']' :: _ => do
      let (parts, rest) ← readSet n false cs
      .ok (.range low low :: parts, rest)
    | '-' :: '[' :: '.' :: high :: '.' :: ']' :: rest => do
      let (parts, rest) ← readSet n false rest
      .ok (.range low high :: parts, rest)
    | '-' :: high :: rest =>
      if high < low then .error .badRange
      else do
        let (parts, rest) ← readSet n false rest
        .ok (.range low high :: parts, rest)
    | _ => do
      let (parts, rest) ← readSet n false cs
      .ok (.range low low :: parts, rest)

/-- The expression of a set after its opening bracket. -/
def readBracket (cs : List Char) : Except Fault (Regex × List Char) :=
  match cs with
  | [] | ['^'] => .error .emptyBracket
  | '^' :: rest => do
    let (parts, rest) ← readSet (rest.length + 1) true rest
    .ok (.set true parts, rest)
  | cs => do
    let (parts, rest) ← readSet (cs.length + 1) true cs
    .ok (.set false parts, rest)

/-- What an escape of one letter matches in both spellings. -/
def escape? : Char → Option Regex
  | 'w' => some (.set false [.named "alnum", .range '_' '_'])
  | 'W' => some (.set true [.named "alnum", .range '_' '_'])
  | 's' => some (.set false [.named "space"])
  | 'S' => some (.set true [.named "space"])
  | 'b' => some (.junction false true true false)
  | 'B' => some (.junction true false false true)
  | '<' => some (.junction false true false false)
  | '>' => some (.junction false false true false)
  | '\x60' => some .lineStart
  | '\'' => some .lineEnd
  | 'n' => some (char '\n')
  | 't' => some (char '\t')
  | _ => none

/-- How expressions are spelled: in the basic or the extended way, and whether signs of repetition where
nothing can be repeated, counts that are none, and closing signs of no group are refused or stand for
themselves. -/
structure Spelling where
  extended : Bool
  strict : Bool := false
  deriving DecidableEq, Repr

/-- What follows the closing brace of counts, if that stands here. -/
def Spelling.closing? (spelling : Spelling) (cs : List Char) : Option (List Char) :=
  match spelling.extended, cs with
  | true, '\x7d' :: rest => some rest
  | false, '\\' :: '\x7d' :: rest => some rest
  | _, _ => none

/-- The text of a count, up to a comma, the closing brace or the end. -/
def Spelling.countText (spelling : Spelling) : List Char → List Char × List Char
  | [] => ([], [])
  | c :: cs =>
    if c == ',' || (spelling.closing? (c :: cs)).isSome then ([], c :: cs)
    else
      let (text, rest) := spelling.countText cs
      (c :: text, rest)

/-- A count. -/
inductive Count where
  | absent
  | wrong
  | given (n : Nat)
  deriving DecidableEq, Repr

/-- The count that a text is. -/
def Count.ofChars (cs : List Char) : Count :=
  if cs.isEmpty then .absent
  else if cs.all Char.isDigit then .given (cs.foldl (fun n c => n * 10 + (c.toNat - '0'.toNat)) 0)
  else .wrong

/-- How often something is repeated at most. -/
def mostRepeats : Nat := 32767

/-- What counts turn out to be. -/
inductive Counts where
  | given (least : Nat) (most : Option Nat) (rest : List Char)
  | refused (f : Fault)
  /-- The brace stands for itself, unless the spelling is strict. -/
  | plain (f : Fault)

/-- The counts of a repetition after its opening brace. -/
def Spelling.counts (spelling : Spelling) (cs : List Char) : Counts :=
  let (text, rest) := spelling.countText cs
  let wrong : Counts := .plain .badCount
  match rest, spelling.closing? rest with
  | [], _ => .plain .unmatchedBrace
  | _, some after =>
    match Count.ofChars text with
    | .absent => .refused .badCount
    | .wrong => wrong
    | .given n => if mostRepeats < n then .refused .tooBig else .given n (some n) after
  | _ :: rest, none =>
    let (last, rest) := spelling.countText rest
    match rest, spelling.closing? rest, Count.ofChars text, Count.ofChars last with
    | [], _, _, _ => .plain .unmatchedBrace
    | _, _, .wrong, _ | _, _, _, .wrong => wrong
    | _, none, _, _ => .refused .badCount
    | _, some after, low, high =>
      let least := match low with
        | .given n => n
        | _ => 0
      match high with
      | .given most =>
        if most < least then .refused .badCount
        else if mostRepeats < most then .refused .tooBig
        else .given least (some most) after
      | _ => if mostRepeats < least then .refused .tooBig else .given least none after

/-- What has been read of an expression: the choices before the current one, the parts of that one, how many
groups have begun, and what is left. -/
structure Reading where
  choices : List Regex := []
  current : List Regex := []
  groups : Nat
  rest : List Char

/-- The expression of what has been read. -/
def Reading.result (r : Reading) : Regex :=
  let whole (parts : List Regex) : Regex := match parts with
    | [] => .empty
    | p :: ps => ps.foldl (fun acc q => .sequence q acc) p
  (r.choices.foldl (fun acc c => .either c acc) (whole r.current))

/-- Adds a part. -/
def Reading.add (r : Reading) (part : Regex) (rest : List Char) : Reading :=
  { r with current := part :: r.current, rest }

/-- Ends a choice. -/
def Reading.choice (r : Reading) (rest : List Char) : Reading :=
  { r with choices := (Reading.result { r with choices := [] }) :: r.choices, current := [], rest }

/-- Repeats the last part. -/
def Reading.again (r : Reading) (least : Nat) (most : Option Nat) (rest : List Char) : Reading :=
  match r.current with
  | p :: ps => { r with current := .repeated p least most :: ps, rest }
  | [] => { r with rest }

/-- Whether the last part is repeated already. -/
def Reading.endsRepeated (r : Reading) : Bool :=
  match r.current with
  | .repeated .. :: _ => true
  | _ => false

/-- Reads an expression, up to the closing sign of a group if `inside` says so. -/
def readAll (spelling : Spelling) : Nat → Bool → Reading → Except Fault Reading
  | 0, _, _ => .error .unmatchedGroup
  | n + 1, inside, r =>
    let extended := spelling.extended
    let go := readAll spelling n inside
    let group (rest : List Char) : Except Fault Reading := do
      let number := r.groups + 1
      let inner ← readAll spelling n true { groups := number, rest }
      go { r.add (.group number inner.result) inner.rest with groups := inner.groups }
    let atStart := match r.current with
      | [] => true
      | [.lineStart] => true
      | _ => false
    let repeatedTwice := spelling.strict && !extended && r.endsRepeated
    let star (least : Nat) (most : Option Nat) (c : Char) (rest : List Char) : Except Fault Reading :=
      if repeatedTwice || (atStart && extended && spelling.strict) then .error .badRepeat
      else if atStart then
        match extended, rest with
        | true, ')' :: rest => go (r.add (char ')') rest)
        | true, rest => go { r with rest }
        | false, rest => go (r.add (char c) rest)
      else go (r.again least most rest)
    let counted (rest : List Char) : Except Fault Reading :=
      if spelling.strict && (repeatedTwice || atStart) then .error .badRepeat
      else if atStart && !extended then go (r.add (char '\x7b') rest)
      else
        match spelling.counts rest with
        | .given least most after =>
          if atStart then go { r with rest := after } else go (r.again least most after)
        | .refused f => .error f
        | .plain f =>
          if spelling.strict || !extended then .error f else go (r.add (char '\x7b') rest)
    match r.rest with
    | [] => if inside then .error .unmatchedGroup else .ok r
    | '[' :: rest => do
      let (part, rest) ← readBracket rest
      go (r.add part rest)
    | '.' :: rest => go (r.add (.set true []) rest)
    | '*' :: rest => star 0 none '*' rest
    | '^' :: rest =>
      if extended || r.current.isEmpty then go (r.add .lineStart rest) else go (r.add (char '^') rest)
    | '$' :: rest =>
      let ending := match rest with
        | [] => true
        | '\\' :: ')' :: _ | '\\' :: '|' :: _ => true
        | _ => false
      if extended || ending then go (r.add .lineEnd rest) else go (r.add (char '$') rest)
    | '\\' :: [] => .error .trailingBackslash
    | '\\' :: c :: rest =>
      if !extended && c == '(' then group rest
      else if !extended && c == ')' then
        if inside then .ok { r with rest } else .error .unmatchedClose
      else if !extended && c == '|' then go (r.choice rest)
      else if !extended && c == '+' then star 1 none '+' rest
      else if !extended && c == '?' then star 0 (some 1) '?' rest
      else if !extended && c == '\x7b' then counted rest
      else if c.isDigit && c ≠ '0' then
        let k := c.toNat - '0'.toNat
        if r.groups < k then .error .badReference else go (r.add (.again k) rest)
      else
        match escape? c with
        | some part => go (r.add part rest)
        | none => go (r.add (char c) rest)
    | c :: rest =>
      if extended && c == '(' then group rest
      else if extended && c == ')' then
        if inside then .ok { r with rest }
        else if spelling.strict then .error .unmatchedClose
        else go (r.add (char ')') rest)
      else if extended && c == '|' then go (r.choice rest)
      else if extended && c == '+' then star 1 none '+' rest
      else if extended && c == '?' then star 0 (some 1) '?' rest
      else if extended && c == '\x7b' then counted rest
      else go (r.add (char c) rest)

/-- The signs of repetition in the extended spelling that stand where nothing can be repeated; `opening` says
whether nothing stands before. Each turn takes a character. -/
def earlySigns : Nat → Bool → List Char → List String
  | 0, _, _ => []
  | n + 1, opening, cs =>
    match cs with
    | [] => []
    | '\\' :: c :: rest => earlySigns n (opening && "<>bB".toList.contains c) rest
    | '[' :: rest =>
      match readBracket rest with
      | .ok (_, rest) => earlySigns n false rest
      | .error _ => []
    | '\x7b' :: rest =>
      match Spelling.counts { extended := true } rest with
      | .given _ _ after => (if opening then ["\x7b...\x7d"] else []) ++ earlySigns n false after
      | _ => earlySigns n false rest
    | c :: rest =>
      if "*+?".toList.contains c then
        (if opening then [String.ofList [c]] else []) ++ earlySigns n opening rest
      else earlySigns n (c == '(' || c == '|' || (opening && (c == '^' || c == '$'))) rest

/-- The expression that a text spells. -/
def ofString (spelling : Spelling) (s : String) : Except Fault Regex := do
  let cs := s.toList
  let r ← readAll spelling (cs.length + 1) false { groups := 0, rest := cs }
  .ok r.result

end ServerTrials.Client.Regex
