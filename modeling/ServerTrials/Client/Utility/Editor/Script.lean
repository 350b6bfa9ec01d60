import ServerTrials.Client.Regex.Reader
import ServerTrials.Client.Utility.Basic

/-!
Scripts of the line editor: which lines a command is for and what it does with them.
-/

namespace ServerTrials.Client.Utility.Editor

/-- An expression in a script; none stands for the last one that was used. -/
structure Sought where
  regex : Option Regex
  style : Regex.Style

/-- A line that a command is for. -/
inductive Address where
  | line (n : Nat)
  | last
  | sought (s : Sought)
  | every (first step : Nat)

/-- Where a range of lines ends. -/
inductive RangeEnd where
  | at (a : Address)
  | after (n : Nat)
  | multiple (n : Nat)

/-- How letters are changed in what replaces a match. -/
inductive Casing where
  | keep
  | upper
  | lower
  | upperNext
  | lowerNext
  deriving DecidableEq, Repr

/-- A part of what replaces a match. -/
inductive NewPart where
  | text (c : Char)
  | group (n : Nat)
  | casing (c : Casing)
  deriving DecidableEq, Repr

/-- What a command does. -/
inductive Verb where
  | substitute (s : Sought) (new : List NewPart) (all : Bool) (number : Nat) (print : Bool)
      (file : Option String)
  | exchange (table : List (Char × Char))
  | delete
  | deleteFirst
  | print
  | printFirst
  | next
  | join
  | hold
  | holdMore
  | fetch
  | fetchMore
  | swap
  | number
  | list
  | clear
  | append (text : String)
  | insert (text : String)
  | change (text : String)
  | readFile (path : String)
  | writeFile (path : String)
  | quit (status : Nat)
  | quitSilently (status : Nat)
  | label (name : String)
  | jump (name : String)
  | jumpIfChanged (name : String)
  | jumpUnlessChanged (name : String)
  /-- The commands up to the closing brace that many commands on. -/
  | block (size : Nat)

/-- A command: the lines it is for, whether it is for all others instead, and what it does. -/
structure Command where
  first : Option Address := none
  last : Option RangeEnd := none
  negated : Bool := false
  verb : Verb

/-! ### Reading -/

/-- What is left of a script, how much was taken of it, and whether the extended spelling is used. -/
structure Source where
  chars : List Char
  taken : Nat := 0
  extended : Bool

/-- Reads from a script, or tells what is wrong with it and how far the reader came. -/
abbrev Reader := StateT Source (Except (Nat × String))

namespace Reader

/-- The characters that are left. -/
def rest : Reader (List Char) := do return (← get).chars

/-- Takes characters. -/
def skip (n : Nat) : Reader Unit := modify fun s =>
  { s with chars := s.chars.drop n, taken := s.taken + min n s.chars.length }

/-- Refuses the script at the place that was reached. -/
def refuse {α : Type} (reason : String) : Reader α := do throw ((← get).taken, reason)

/-- Takes blanks. -/
def blanks : Reader Unit := do skip ((← rest).takeWhile fun c => c == ' ' || c == '\t').length

/-- Takes blanks, line ends and signs between commands. -/
def gaps : Reader Unit := do skip ((← rest).takeWhile fun c => isGap c || c == ';').length

/-- Takes a number, if one stands here. -/
def number? : Reader (Option Nat) := do
  let ds := (← rest).takeWhile Char.isDigit
  skip ds.length
  return digits? (String.ofList ds)

/-- The text up to a sign, in which a backslash takes the meaning of the sign away; brackets of an
expression keep signs together. None if the sign does not come. -/
def upTo (sign : Char) (regex : Bool) : Nat → Bool → List Char → Option (List Char × Nat)
  | 0, _, _ => none
  | n + 1, inside, cs =>
    let take (c : Char) (size : Nat) (inside : Bool) (rest : List Char) :=
      (upTo sign regex n inside rest).map fun r => (c :: r.1, r.2 + size)
    match cs with
    | [] => none
    | '\\' :: c :: rest =>
      if inside then take '\\' 1 inside (c :: rest)
      else if c == sign then take c 2 inside rest
      else if c == '\n' && regex then take '\n' 2 inside rest
      else (upTo sign regex n inside rest).map fun r => ('\\' :: c :: r.1, r.2 + 2)
    | c :: rest =>
      if inside then take c 1 (c != ']') rest
      else if c == sign then some ([], 1)
      else if c == '\n' && regex then none
      else if c == '[' && regex then
        match rest with
        | '^' :: ']' :: rest =>
          (upTo sign regex n true rest).map fun r => ('[' :: '^' :: ']' :: r.1, r.2 + 3)
        | ']' :: rest => (upTo sign regex n true rest).map fun r => ('[' :: ']' :: r.1, r.2 + 2)
        | rest => take '[' 1 true rest
      else take c 1 false rest

/-- The expression that a text spells. -/
def sought (cs : List Char) (style : Regex.Style) : Reader Sought := do
  if cs.isEmpty then return ⟨none, style⟩
  else
    match Regex.ofString { extended := (← get).extended, strict := true } (String.ofList cs) with
    | .ok r => return ⟨some r, style⟩
    | .error e => refuse e.wording

/-- An address, if one stands here. -/
def address? : Reader (Option Address) := do
  match ← rest with
  | '$' :: _ => do
    skip 1
    return some .last
  | '/' :: _ => do
    skip 1
    some <$> regexAddress '/'
  | '\\' :: c :: _ => do
    skip 2
    some <$> regexAddress c
  | c :: _ =>
    if c.isDigit then do
      let n := (← number?).getD 0
      match ← rest with
      | '~' :: _ => do
        skip 1
        return some (.every n ((← number?).getD 0))
      | _ => return some (.line n)
    else return none
  | [] => return none
where
  /-- The address of lines that an expression matches. -/
  regexAddress (sign : Char) : Reader Address := do
    let cs ← rest
    match upTo sign true (cs.length + 1) false cs with
    | none => do
      skip cs.length
      refuse "unterminated address regex"
    | some (body, size) => do
      skip size
      let letters := (← rest).takeWhile fun c => c == 'I' || c == 'M'
      skip letters.length
      return .sought (← sought body ⟨letters.contains 'I', letters.contains 'M'⟩)

/-- The end of a range. -/
def rangeEnd : Reader RangeEnd := do
  blanks
  match ← rest with
  | '+' :: _ => do
    skip 1
    return .after ((← number?).getD 0)
  | '~' :: _ => do
    skip 1
    return .multiple ((← number?).getD 0)
  | _ =>
    match ← address? with
    | some a => return .at a
    | none => do
      skip 1
      refuse "unexpected \x60,'"

/-- The parts of what replaces a match. -/
def newParts : Nat → List Char → List NewPart
  | 0, _ => []
  | _, [] => []
  | n + 1, '\\' :: c :: rest =>
    let part : NewPart := match c with
      | 'n' => .text '\n'
      | 't' => .text '\t'
      | 'U' => .casing .upper
      | 'L' => .casing .lower
      | 'u' => .casing .upperNext
      | 'l' => .casing .lowerNext
      | 'E' => .casing .keep
      | c => if c.isDigit then .group (c.toNat - '0'.toNat) else .text c
    part :: newParts n rest
  | n + 1, '&' :: rest => .group 0 :: newParts n rest
  | n + 1, c :: rest => .text c :: newParts n rest

/-- What stands after a substitution. -/
structure Flags where
  all : Bool := false
  number : Option Nat := none
  print : Bool := false
  anyCase : Bool := false
  lines : Bool := false
  file : Option String := none

/-- The flags of a substitution. -/
def flags : Nat → Flags → Reader Flags
  | 0, f => return f
  | n + 1, f => do
    match ← rest with
    | 'g' :: _ => do
      skip 1
      if f.all then refuse "multiple \x60g' options to \x60s' command"
      flags n { f with all := true }
    | 'p' :: _ => do
      skip 1
      if f.print then refuse "multiple \x60p' options to \x60s' command"
      flags n { f with print := true }
    | 'i' :: _ | 'I' :: _ => do
      skip 1
      flags n { f with anyCase := true }
    | 'm' :: _ | 'M' :: _ => do
      skip 1
      flags n { f with lines := true }
    | 'w' :: _ => do
      skip 1
      blanks
      let path := (← rest).takeWhile (· != '\n')
      skip path.length
      return { f with file := some (String.ofList path) }
    | c :: _ =>
      if c.isDigit then do
        let k := (← number?).getD 0
        if k = 0 then refuse "number option to \x60s' command may not be zero"
        if f.number.isSome then refuse "multiple number options to \x60s' command"
        flags n { f with number := some k }
      else return f
    | [] => return f

/-- The end of a command. -/
def ending (known : Option String := none) : Reader Unit := do
  blanks
  match ← rest with
  | [] | '\x7d' :: _ | '#' :: _ => pure ()
  | c :: _ => do
    if c == '\n' || c == ';' then skip 1
    else do
      skip 1
      refuse (known.getD "extra characters after command")

/-- A substitution after its letter. -/
def substitution : Reader Verb := do
  match ← rest with
  | [] => refuse "unterminated \x60s' command"
  | sign :: _ => do
    skip 1
    let unfinished : Reader Verb := do
      skip (← rest).length
      refuse "unterminated \x60s' command"
    let cs ← rest
    match upTo sign true (cs.length + 1) false cs with
    | none => unfinished
    | some (old, size) => do
      skip size
      let cs ← rest
      match upTo sign false (cs.length + 1) false cs with
      | none => unfinished
      | some (new, size) => do
        skip size
        let f ← flags 10 {}
        ending (some "unknown option to \x60s'")
        let s ← sought old ⟨f.anyCase, f.lines⟩
        let parts := newParts (new.length + 1) new
        let groups := ((s.regex.map (·.groupCount)).getD 9)
        match parts.find? fun p =>
          match p with
          | .group n => groups < n
          | _ => false with
        | some (.group n) => refuse ("invalid reference \\" ++ toString n ++ " on \x60s' command's RHS")
        | _ => return .substitute s parts f.all (f.number.getD 1) f.print f.file

/-- The characters of one side of an exchange. -/
def exchanged : List Char → List Char
  | '\\' :: 'n' :: cs => '\n' :: exchanged cs
  | '\\' :: '\\' :: cs => '\\' :: exchanged cs
  | c :: cs => c :: exchanged cs
  | [] => []

/-- An exchange of characters after its letter. -/
def exchange : Reader Verb := do
  let unfinished : Reader Verb := do
    skip (← rest).length
    refuse "unterminated \x60y' command"
  match ← rest with
  | [] => unfinished
  | sign :: _ => do
    skip 1
    let cs ← rest
    match upTo sign false (cs.length + 1) false cs with
    | none => unfinished
    | some (old, size) => do
      skip size
      let cs ← rest
      match upTo sign false (cs.length + 1) false cs with
      | none => unfinished
      | some (new, size) => do
        skip size
        let (a, b) := (exchanged old, exchanged new)
        if a.length ≠ b.length then refuse "strings for \x60y' command are different lengths"
        ending
        return .exchange (a.zip b)

/-- A text with its backslashes taken away, up to a line end that none protects. -/
def textLines : Nat → List Char → List Char × Nat
  | 0, _ => ([], 0)
  | _, [] => ([], 0)
  | _, '\n' :: _ => ([], 1)
  | n + 1, '\\' :: c :: rest =>
    let (more, size) := textLines n rest
    (c :: more, size + 2)
  | n + 1, c :: rest =>
    let (more, size) := textLines n rest
    (c :: more, size + 1)

/-- The text of a command that adds lines. -/
def addedText : Reader String := do
  blanks
  match ← rest with
  | '\\' :: '\n' :: _ => skip 2
  | '\\' :: _ => do
    skip 1
    let gap := (← rest).takeWhile fun c => c == ' ' || c == '\t'
    match (← rest).drop gap.length with
    | '\n' :: _ => skip (gap.length + 1)
    | _ => pure ()
  | [] | '\n' :: _ => refuse "expected \\ after \x60a', \x60c' or \x60i'"
  | _ => pure ()
  let cs ← rest
  if cs.isEmpty then return ""
  let (text, size) := textLines (cs.length + 1) cs
  skip size
  return String.ofList text ++ "\n"

/-- A name up to the end of a command. -/
def name : Reader String := do
  blanks
  let cs := (← rest).takeWhile fun c => c != '\n' && c != ';' && c != '\x7d'
  skip cs.length
  ending
  return String.ofList (cs.reverse.dropWhile isGap).reverse

/-- A path up to the end of the line. -/
def path : Reader String := do
  blanks
  let cs := (← rest).takeWhile (· != '\n')
  skip (cs.length + 1)
  return String.ofList cs

/-- What a command that is one letter does. -/
def plain? : Char → Option Verb
  | 'd' => some .delete
  | 'D' => some .deleteFirst
  | 'p' => some .print
  | 'P' => some .printFirst
  | 'n' => some .next
  | 'N' => some .join
  | 'h' => some .hold
  | 'H' => some .holdMore
  | 'g' => some .fetch
  | 'G' => some .fetchMore
  | 'x' => some .swap
  | '=' => some .number
  | 'z' => some .clear
  | _ => none

/-- What a command does, by its letter. -/
def verb (c : Char) : Reader Verb := do
  match plain? c with
  | some v => do
    ending
    return v
  | none =>
    match c with
    | 's' => substitution
    | 'y' => exchange
    | 'a' => .append <$> addedText
    | 'i' => .insert <$> addedText
    | 'c' => .change <$> addedText
    | 'r' => .readFile <$> path
    | 'w' => .writeFile <$> path
    | 'b' => .jump <$> name
    | 't' => .jumpIfChanged <$> name
    | 'T' => .jumpUnlessChanged <$> name
    | 'l' => do
      blanks
      discard number?
      ending
      return .list
    | 'q' | 'Q' => do
      blanks
      let n := (← number?).getD 0
      ending
      return if c == 'q' then .quit n else .quitSilently n
    | c => refuse ("unknown command: \x60" ++ String.ofList [c] ++ "'")

/-- The commands of a script, up to a closing brace if `depth` counts open ones. -/
def commands : Nat → Nat → Reader (List Command)
  | 0, _ => return []
  | n + 1, depth => do
    gaps
    match ← rest with
    | [] => if depth = 0 then return [] else throw (0, "unmatched \x60\x7b'")
    | '#' :: _ => do
      skip ((← rest).takeWhile (· != '\n')).length
      commands n depth
    | _ => do
      let first ← address?
      blanks
      let last ← match first, ← rest with
        | some _, ',' :: _ => do
          skip 1
          some <$> rangeEnd
        | _, _ => pure none
      match first, last with
      | some (.line 0), some (.at (.sought _)) => pure ()
      | some (.line 0), _ => do
        blanks
        skip 1
        refuse "invalid usage of line address 0"
      | _, _ => pure ()
      blanks
      let negated := match ← rest with
        | '!' :: _ => true
        | _ => false
      if negated then
        skip 1
        blanks
        match ← rest with
        | '!' :: _ => do
          skip 1
          refuse "multiple \x60!'s"
        | _ => pure ()
      match ← rest with
      | [] => refuse "missing command"
      | '\x7d' :: _ => do
        skip 1
        if first.isSome then refuse "unexpected \x60\x7d'"
        if depth = 0 then refuse "unexpected \x60\x7d'"
        ending
        return []
      | '\x7b' :: _ => do
        skip 1
        let body ← commands n (depth + 1)
        return { first, last, negated, verb := .block body.length } :: body ++ (← commands n depth)
      | ':' :: _ => do
        skip 1
        blanks
        let label := (← rest).takeWhile fun c => !isGap c && c != ';'
        if label.isEmpty then refuse "\":\" lacks a label"
        skip label.length
        return { verb := .label (String.ofList label) } :: (← commands n depth)
      | c :: _ => do
        skip 1
        let v ← verb c
        return { first, last, negated, verb := v } :: (← commands n depth)

end Reader

/-- The commands of a script, or what is wrong with it and how far it is right. -/
def ofText (extended : Bool) (s : String) : Except (Nat × String) (List Command) :=
  match (Reader.commands (s.length + 1) 0).run { chars := s.toList, extended } with
  | .ok (cs, _) => .ok cs
  | .error e => .error e

end ServerTrials.Client.Utility.Editor
