import ServerTrials.Client.Shell.Command

/-!
Reading shell scripts.

A reader takes commands off the front of a script. Words are read by their quotes, commands by their
first word. What is nested (commands in words, words in words, commands in commands) is read by the
reader that stands one level above, so the depth of nesting bounds the recursion; along the script each
step takes a character.
-/

namespace ServerTrials.Client.Shell

/-- The rest of a script: its characters, the line they begin on, the lines taken out of the current line
end, and the aliases in force. -/
structure Source where
  chars : List Char
  line : Nat := 1
  held : Nat := 0
  aliases : List (String × String) := []

/-- Reads from a source, or says what is wrong with it. -/
abbrev Reader := EStateM String Source

namespace Reader

/-! ### Characters -/

/-- Whether a character ends a word outside quotes. -/
def endsWord (c : Char) : Bool :=
  c == ' ' || c == '\t' || c == '\n' || c == ';' || c == '&' || c == '|' || c == '<' || c == '>'
    || c == '(' || c == ')'

/-- Whether a character may stand in a name. -/
def isNameChar (c : Char) : Bool := c.isAlphanum || c == '_'

/-- Whether a character may begin a name. -/
def beginsName (c : Char) : Bool := c.isAlpha || c == '_'

/-- Whether a text is the name of a variable or function. -/
def isName (s : String) : Bool :=
  match s.toList with
  | c :: cs => beginsName c && cs.all isNameChar
  | [] => false

/-- The commands that no function may replace: what they set stays set, and their mistakes end the
shell. -/
def specialNames : List String :=
  [".", ":", "break", "continue", "eval", "exec", "exit", "export", "local", "readonly", "return", "set",
    "shift", "times", "trap", "unset"]

/-- Whether a name of one character stands for something the shell keeps. -/
def isSpecial (c : Char) : Bool := c.isDigit || "#@*?$!-".toList.contains c

/-- The characters that are left. -/
def rest : Reader (List Char) := do return (← get).chars

/-- Takes a character. -/
def advance : Reader Unit := modify fun s =>
  match s.chars with
  | [] => s
  | '\n' :: cs => { s with chars := cs, line := s.line + 1 + s.held, held := 0 }
  | _ :: cs => { s with chars := cs }

/-- Takes some characters. -/
def skip : Nat → Reader Unit
  | 0 => pure ()
  | n + 1 => do advance; skip n

/-- Takes characters while they satisfy a test; answers them. -/
def takeWhile (p : Char → Bool) : Reader (List Char) := do
  let cs := (← rest).takeWhile p
  skip cs.length
  return cs

/-- Takes blanks, joined lines and a comment. -/
def skipBlanks : Nat → Reader Unit
  | 0 => pure ()
  | n + 1 => do
    match ← rest with
    | ' ' :: _ | '\t' :: _ => advance; skipBlanks n
    | '\\' :: '\n' :: _ => skip 2; skipBlanks n
    | '#' :: _ => discard (takeWhile (· != '\n'))
    | _ => pure ()

/-- Takes all blanks that stand here. -/
def blanks : Reader Unit := do skipBlanks ((← rest).length + 1)

/-- Takes blanks and line ends. -/
def skipLines : Nat → Reader Unit
  | 0 => pure ()
  | n + 1 => do
    blanks
    match ← rest with
    | '\n' :: _ => advance; skipLines n
    | _ => pure ()

/-- Takes all blanks and line ends that stand here. -/
def lines : Reader Unit := do skipLines ((← rest).length + 1)

/-! ### Complaints -/

/-- The word at the front, as far as it can be a keyword. -/
def front (cs : List Char) : List Char := cs.takeWhile fun c => !endsWord c

/-- The words with a meaning of their own where a command may begin. -/
def keywords : List String :=
  ["!", "\x7b", "\x7d", "case", "do", "done", "elif", "else", "esac", "fi", "for", "if", "in", "then",
    "until", "while"]

/-- What stands at the front, as a complaint names it; `plain` says that a keyword is a word like others. -/
def describe (plain : Bool) (cs : List Char) : String :=
  match cs with
  | [] => "end of file"
  | '\n' :: _ => "newline"
  | ';' :: ';' :: _ => "\";;\""
  | '&' :: '&' :: _ => "\"&&\""
  | '|' :: '|' :: _ => "\"||\""
  | '<' :: _ | '>' :: _ => "redirection"
  | c :: _ =>
    let word := String.ofList (front cs)
    if endsWord c then "\"" ++ String.ofList [c] ++ "\""
    else if !plain && keywords.contains word then "\"" ++ word ++ "\""
    else "word"

/-- Refuses what stands at the front. -/
def unexpected {α : Type} (expecting : Option String := none) (plain : Bool := false) : Reader α := do
  let wanted := match expecting with
    | some w => " (expecting \"" ++ w ++ "\")"
    | none => ""
  let found := describe plain (← rest)
  if found = "newline" then advance
  throw (found ++ " unexpected" ++ wanted)

/-! ### Keywords -/

/-- The keyword at the front, after blanks. -/
def keyword? : Reader (Option String) := do
  blanks
  let word := String.ofList (front (← rest))
  return if keywords.contains word then some word else none

/-- Takes a keyword that has to stand here. -/
def expect (word : String) : Reader Unit := do
  if (← keyword?) == some word then skip word.length else unexpected (some word)

/-! ### Words -/

/-- Where characters of a word stand, which settles what quotes them and what ends them. -/
inductive Mode where
  | word
  | braced
  | double
  | bracedDouble
  | here
  | expression (depth : Nat)
  deriving DecidableEq, Repr

namespace Mode

/-- Whether characters that stand there are quoted. -/
def quotes : Mode → Bool
  | .word | .braced => false
  | _ => true

/-- Whether quotes keep their meaning there. -/
def hasQuotes : Mode → Bool
  | .word | .braced => true
  | _ => false

/-- Whether the characters end in front of the text. -/
def ends (m : Mode) (cs : List Char) : Bool :=
  match m, cs with
  | .word, c :: _ => endsWord c
  | .word, [] => true
  | .braced, '\x7d' :: _ | .bracedDouble, '\x7d' :: _ => true
  | .double, '"' :: _ => true
  | .here, [] => true
  | .expression 0, ')' :: ')' :: _ => true
  | _, _ => false

/-- Whether a backslash takes away the meaning of that character there. -/
def escapes (m : Mode) (c : Char) : Bool :=
  match m with
  | .word | .braced => true
  | .double => "$\x60\"\\".toList.contains c
  | .bracedDouble => "$\x60\"\\\x7d".toList.contains c
  | .here => "$\x60\\".toList.contains c
  | .expression _ => "$\x60\"\\".toList.contains c

/-- What is wrong if a script ends there. -/
def unfinished : Mode → String
  | .braced | .bracedDouble => "Missing '\x7d'"
  | .expression _ => "Missing '))'"
  | _ => "Unterminated quoted string"

end Mode

/-- The name of a parameter between braces. -/
def bracedName : Reader String := do
  match ← rest with
  | c :: _ =>
    if c.isDigit then return String.ofList (← takeWhile Char.isDigit)
    else if isSpecial c then do
      advance
      return String.ofList [c]
    else return String.ofList (← takeWhile isNameChar)
  | [] => return ""

/-- The fallback that a character stands for. -/
def fallback? : Char → Option Fallback
  | '-' => some .default
  | '=' => some .assign
  | '+' => some .replace
  | '?' => some .complain
  | _ => none

/-- The form of a parameter after its name, up to the closing brace; words are read by `parts`. -/
def readForm (parts : Mode → Reader Word) (inner : Mode) : Reader Form := do
  match ← rest with
  | '\x7d' :: _ => return .value
  | ':' :: c :: _ =>
    match fallback? c with
    | some how => do
      skip 2
      return .fallback how true (← parts inner)
    | none => do
      discard (parts inner)
      return .bad
  | '#' :: '#' :: _ => skip 2; return .trim false true (← parts .braced)
  | '#' :: _ => advance; return .trim false false (← parts .braced)
  | '%' :: '%' :: _ => skip 2; return .trim true true (← parts .braced)
  | '%' :: _ => advance; return .trim true false (← parts .braced)
  | c :: _ =>
    match fallback? c with
    | some how => do
      advance
      return .fallback how false (← parts inner)
    | none => do
      discard (parts inner)
      return .bad
  | [] => throw "Missing '\x7d'"

/-- The parameter after an opening brace. -/
def readBraced (parts : Mode → Reader Word) (quoted : Bool) : Reader Part := do
  let inner := if quoted then Mode.bracedDouble else Mode.braced
  let part ← match ← rest with
    | '#' :: '\x7d' :: _ => do advance; pure (Part.parameter "#" .value quoted)
    | '#' :: c :: cs =>
      if (beginsName c || isSpecial c) && !(cs.head? != some '\x7d' && "-?".toList.contains c) then do
        advance
        let name ← bracedName
        match ← rest with
        | '\x7d' :: _ => pure (Part.parameter name .length quoted)
        | _ => do discard (parts inner); pure (Part.parameter name .bad quoted)
      else do
        advance
        pure (Part.parameter "#" (← readForm parts inner) quoted)
    | _ => do
      let name ← bracedName
      if name == "" then do discard (parts inner); pure (Part.parameter "" .bad quoted)
      else pure (Part.parameter name (← readForm parts inner) quoted)
  advance
  return part

/-- The characters between backquotes, with the backslashes that protect them taken away. -/
def backquoted (quoted : Bool) : Nat → List Char → Reader (List Char)
  | 0, _ => throw "EOF in backquote substitution"
  | n + 1, acc => do
    match ← rest with
    | [] => throw "EOF in backquote substitution"
    | '\x60' :: _ => advance; return acc.reverse
    | '\\' :: c :: _ => do
      skip 2
      if "$\x60\\".toList.contains c || (quoted && c == '"') then backquoted quoted n (c :: acc)
      else backquoted quoted n (c :: '\\' :: acc)
    | c :: _ => advance; backquoted quoted n (c :: acc)

/-- Readers for what is nested: parts of words, and commands up to where they end. -/
structure Nested where
  parts : Mode → Reader Word
  commands : Reader Command

/-- Reads commands from a text of their own. -/
def within (commands : Reader Command) (cs : List Char) : Reader Command := do
  let s ← get
  match (do let c ← commands; lines; if (← rest).isEmpty then return c else unexpected).run
      { s with chars := cs, held := 0 } with
  | .ok c _ => return c
  | .error e _ => throw e

/-- Commands that may be none at all. -/
def maybeCommands (commands : Reader Command) : Reader Command := do
  lines
  match ← rest with
  | [] | ')' :: _ => return .skip
  | _ => commands

/-- The part after a dollar sign. -/
def readDollar (nested : Nested) (quoted : Bool) : Reader Part := do
  match ← rest with
  | '(' :: '(' :: _ => do
    skip 2
    let w ← nested.parts (.expression 0)
    skip 2
    return .arithmetic w quoted
  | '(' :: _ => do
    advance
    let c ← maybeCommands nested.commands
    lines
    match ← rest with
    | ')' :: _ => advance; return .output c quoted
    | _ => unexpected (some ")")
  | '\x7b' :: _ => advance; readBraced nested.parts quoted
  | c :: _ =>
    if beginsName c then return .parameter (String.ofList (← takeWhile isNameChar)) .value quoted
    else if isSpecial c then do
      advance
      return .parameter (String.ofList [c]) .value quoted
    else return .char '$' quoted
  | [] => return .char '$' quoted

/-- The parts of a word in a mode, up to where they end; each turn takes a character. -/
def readParts (nested : Nested) : Nat → Mode → Word → Reader Word
  | 0, m, _ => throw m.unfinished
  | n + 1, m, acc => do
    let cs ← rest
    if m.ends cs then return acc.reverse
    else
      match cs with
      | [] => throw m.unfinished
      | '\\' :: '\n' :: _ => skip 2; readParts nested n m acc
      | '\\' :: c :: _ =>
        if m.escapes c then do
          skip 2
          readParts nested n m (.char c true :: acc)
        else do
          advance
          readParts nested n m (.char '\\' true :: acc)
      | '$' :: _ => do
        advance
        let p ← readDollar nested m.quotes
        readParts nested n m (p :: acc)
      | '\x60' :: _ => do
        advance
        let inside ← backquoted m.quotes n []
        let c ← within (maybeCommands nested.commands) inside
        readParts nested n m (.output c m.quotes :: acc)
      | '"' :: _ =>
        if m.hasQuotes || m = .bracedDouble then do
          advance
          let w ← nested.parts .double
          advance
          readParts nested n m ((if w.isEmpty then [.nothing] else w.reverse) ++ acc)
        else do
          advance
          readParts nested n m (.char '"' true :: acc)
      | '\'' :: _ =>
        if m.hasQuotes then do
          advance
          let inside ← takeWhile (· != '\'')
          if (← rest).isEmpty then throw "Unterminated quoted string"
          advance
          readParts nested n m
            ((if inside.isEmpty then [.nothing] else (Word.quoted inside).reverse) ++ acc)
        else do
          advance
          readParts nested n m (.char '\'' true :: acc)
      | c :: _ => do
        advance
        let m := match m, c with
          | .expression d, '(' => .expression (d + 1)
          | .expression (d + 1), ')' => .expression d
          | m, _ => m
        readParts nested n m (.char c m.quotes :: acc)

/-- The parts of a word in a mode. -/
def partsIn (nested : Nested) (m : Mode) : Reader Word := do
  readParts nested ((← rest).length + 1) m []

/-- A word that has to stand here. -/
def word (nested : Nested) : Reader Word := do
  blanks
  match ← rest with
  | [] => unexpected
  | c :: _ => if endsWord c then unexpected else nested.parts .word

/-! ### Redirections -/

/-- Whether a word has quotes in it. -/
def hasQuotes (w : Word) : Bool := w.any fun p =>
  match p with
  | .char _ quoted => quoted
  | .nothing => true
  | _ => false

/-- The characters of a word. -/
def charsOf (w : Word) : List Char := w.filterMap fun p =>
  match p with
  | .char c _ => some c
  | _ => none

/-- The lines up to one that is nothing but the mark, and what follows it; tabs at their beginnings may
not count. -/
def cutHere (mark : List Char) (tabs : Bool) : Nat → List Char → List Char × List Char × Nat
  | 0, cs => (cs, [], 0)
  | _, [] => ([], [], 0)
  | n + 1, cs =>
    let cs := if tabs then cs.dropWhile (· == '\t') else cs
    let line := cs.takeWhile (· != '\n')
    let after := (cs.dropWhile (· != '\n')).drop 1
    if line = mark then ([], after, 1)
    else
      let (body, rest, count) := cutHere mark tabs n after
      let ended := if line.length < cs.length then ['\n'] else []
      (line ++ ended ++ body, rest, count + 1)

/-- The text that a redirection takes out of the lines after the current one. -/
def readHere (nested : Nested) (descriptor : Nat) (tabs : Bool) : Reader Redirect := do
  let mark ← word nested
  let s ← get
  let current := s.chars.takeWhile (· != '\n')
  let (body, after, count) :=
    cutHere (charsOf mark) tabs (s.chars.length + 1) ((s.chars.dropWhile (· != '\n')).drop 1)
  set { s with
    chars := current ++ (if current.length < s.chars.length then '\n' :: after else [])
    held := s.held + count }
  if hasQuotes mark then return .here descriptor (Word.quoted body)
  else do
    let s ← get
    match (nested.parts .here).run { s with chars := body, held := 0 } with
    | .ok w _ => return .here descriptor w
    | .error e _ => throw e

/-- The redirection at the front, if one stands here. -/
def redirect? (nested : Nested) : Reader (Option Redirect) := do
  blanks
  let s ← get
  let digits := match s.chars with
    | c :: d :: _ => if c.isDigit && (d == '<' || d == '>') then [c] else []
    | _ => []
  let after := s.chars.drop digits.length
  let descriptor (default : Nat) : Nat :=
    if digits.isEmpty then default else (String.ofList digits).toNat?.getD default
  let file (n : Nat) (opening : Opening) (default : Nat) : Reader (Option Redirect) := do
    skip (digits.length + n)
    return some (.file (descriptor default) opening (← word nested))
  match after with
  | '<' :: '<' :: '-' :: _ => do
    skip (digits.length + 3)
    return some (← readHere nested (descriptor 0) true)
  | '<' :: '<' :: _ => do
    skip (digits.length + 2)
    return some (← readHere nested (descriptor 0) false)
  | '<' :: '&' :: _ => do
    skip (digits.length + 2)
    return some (.duplicate (descriptor 0) (← word nested))
  | '>' :: '&' :: _ => do
    skip (digits.length + 2)
    return some (.duplicate (descriptor 1) (← word nested))
  | '<' :: '>' :: _ => file 2 .readWrite 0
  | '>' :: '>' :: _ => file 2 .append 1
  | '>' :: '|' :: _ => file 2 (.write true) 1
  | '<' :: _ => file 1 .read 0
  | '>' :: _ => file 1 (.write false) 1
  | _ => return none

/-- The redirections that stand here. -/
def redirects (nested : Nested) : Nat → Reader (List Redirect)
  | 0 => return []
  | n + 1 => do
    match ← redirect? nested with
    | some r => return r :: (← redirects nested n)
    | none => return []

/-! ### Simple commands -/

/-- The name and the value of a word that sets a variable. -/
def assignment? (w : Word) : Option (String × Word) :=
  let front := (w.map Part.plain?).takeWhile Option.isSome
  let chars := (front.filterMap id)
  let name := chars.takeWhile (· != '=')
  match name with
  | [] => none
  | c :: _ =>
    if beginsName c && name.all isNameChar && (chars.drop name.length).head? == some '=' then
      some (String.ofList name, w.drop (name.length + 1))
    else none

/-- What has been read of a simple command. -/
structure Simple where
  sets : List (String × Word) := []
  words : List Word := []
  redirects : List Redirect := []

/-- Puts the text of an alias in the place of the word at the front, if that is an alias. -/
def expandAlias : Nat → List String → Reader Unit
  | 0, _ => pure ()
  | n + 1, used => do
    blanks
    let s ← get
    let name := String.ofList (front s.chars)
    match s.aliases.find? (·.1 == name) with
    | some (_, text) =>
      if used.contains name then pure ()
      else do
        set { s with chars := text.toList ++ ' ' :: s.chars.drop name.length }
        expandAlias n (name :: used)
    | none => pure ()

/-- The words and redirections of a simple command, or the definition of a function. -/
def readSimple (nested : Nested) (body : Reader Command) (line : Nat) : Nat → Simple → Reader Command
  | 0, _ => unexpected
  | n + 1, c => do
    match ← redirect? nested with
    | some r => readSimple nested body line n { c with redirects := c.redirects ++ [r] }
    | none =>
      match ← rest with
      | [] => finish c
      | '(' :: _ =>
        match c with
        | ⟨[], [w], []⟩ => do
          advance
          blanks
          match ← rest with
          | ')' :: _ => do
            advance
            match Word.plain? w with
            | some name =>
              if isName name && !specialNames.contains name then do
                lines
                return .define name (← body)
              else throw "Bad function name"
            | none => throw "Bad function name"
          | _ => unexpected (some ")") true
        | _ => unexpected
      | ch :: _ =>
        if endsWord ch then finish c
        else do
          let w ← nested.parts .word
          match c.words, assignment? w with
          | [], some a => readSimple nested body line n { c with sets := c.sets ++ [a] }
          | _, _ => readSimple nested body line n { c with words := c.words ++ [w] }
where
  /-- The command, if there is anything in it. -/
  finish (c : Simple) : Reader Command := do
    if c.sets.isEmpty && c.words.isEmpty && c.redirects.isEmpty then unexpected
    else return .simple line c.sets c.words c.redirects

/-! ### Compound commands -/

/-- The rest of a branch after its first word. -/
def readBranch (commands : Reader Command) : Nat → Reader Command
  | 0 => unexpected
  | n + 1 => do
    let condition ← commands
    expect "then"
    let body ← commands
    match ← keyword? with
    | some "elif" => do
      skip 4
      return .branch condition body (← readBranch commands n)
    | some "else" => do
      skip 4
      let otherwise ← commands
      expect "fi"
      return .branch condition body otherwise
    | _ => do
      expect "fi"
      return .branch condition body .skip

/-- The words of a loop over texts. -/
def readEachWords (nested : Nested) : Nat → Reader (List Word)
  | 0 => unexpected
  | n + 1 => do
    blanks
    match ← rest with
    | '\n' :: _ | ';' :: _ => advance; return []
    | [] => unexpected
    | c :: _ => if endsWord c then unexpected else return (← nested.parts .word) :: (← readEachWords nested n)

/-- The rest of a loop over texts after its first word. -/
def readEach (nested : Nested) (commands : Reader Command) : Reader Command := do
  blanks
  let line := (← get).line
  let name := front (← rest)
  match name with
  | [] => throw "Bad for loop variable"
  | c :: _ =>
    if !(beginsName c && name.all isNameChar) then throw "Bad for loop variable"
    skip name.length
    blanks
    let named := match ← rest with
      | ';' :: _ => false
      | _ => true
    if named then lines
    let words ← if (← keyword?) == some "in" then do
        skip 2
        pure (some (← readEachWords nested ((← rest).length + 1)))
      else do
        match ← rest with
        | ';' :: _ => advance
        | _ => pure ()
        pure none
    lines
    expect "do"
    let body ← commands
    expect "done"
    return .each line (String.ofList name) words body

/-- The patterns of an arm. -/
def readPatterns (nested : Nested) : Nat → Reader (List Word)
  | 0 => unexpected
  | n + 1 => do
    blanks
    let w ← match ← rest with
      | [] => unexpected (some ")")
      | ';' :: ';' :: _ => do
        skip 2
        pure default
      | '|' :: _ => do
        advance
        pure default
      | _ => word nested
    blanks
    match ← rest with
    | '|' :: _ => do
      advance
      return w :: (← readPatterns nested n)
    | ')' :: _ => advance; return [w]
    | _ => unexpected (some ")") true

/-- The arms of a choice up to its end. -/
def readArms (nested : Nested) (commands : Reader Command) : Nat → Reader (List Arm)
  | 0 => unexpected
  | n + 1 => do
    lines
    if (← keyword?) == some "esac" then do
      skip 4
      return []
    else do
      match ← rest with
      | '(' :: _ => advance
      | _ => pure ()
      let patterns ← readPatterns nested ((← rest).length + 1)
      lines
      let body ← match ← rest with
        | ';' :: ';' :: _ => pure Command.skip
        | _ => if (← keyword?) == some "esac" then pure .skip else commands
      lines
      match ← rest with
      | ';' :: ';' :: _ => do
        skip 2
        return .mk patterns body :: (← readArms nested commands n)
      | _ => do
        if (← keyword?) == some "esac" then skip 4 else unexpected (some ";;")
        return [.mk patterns body]

/-- The rest of a choice after its first word. -/
def readChoice (nested : Nested) (commands : Reader Command) : Reader Command := do
  let line := (← get).line
  let w ← word nested
  lines
  expect "in"
  return .choose line w (← readArms nested commands ((← rest).length + 1))

/-- A command that begins with that keyword. -/
def readKeyword (nested : Nested) (commands : Reader Command) (key : String) : Reader Command := do
  match key with
  | "if" => skip 2; readBranch commands ((← rest).length + 1)
  | "while" | "until" => do
    skip 5
    let condition ← commands
    expect "do"
    let body ← commands
    expect "done"
    return .loop (key == "until") condition body
  | "for" => skip 3; readEach nested commands
  | "case" => skip 4; readChoice nested commands
  | "\x7b" => do
    advance
    let body ← commands
    expect "\x7d"
    return body
  | _ => unexpected

/-- A command with its redirections. -/
def command (nested : Nested) (commands : Reader Command) : Nat → Reader Command
  | 0 => unexpected
  | n + 1 => do
    expandAlias ((← rest).length + 1) []
    let line := (← get).line
    let compound : Option (Reader Command) ← do
      match ← keyword?, ← rest with
      | _, '(' :: _ => pure (some do
          advance
          let body ← commands
          match ← rest with
          | ')' :: _ => advance; return .subshell body
          | _ => unexpected (some ")"))
      | some key, _ => pure (some (readKeyword nested commands key))
      | none, _ => pure none
    match compound with
    | some read => do
      let c ← read
      let rs ← redirects nested ((← rest).length + 1)
      return if rs.isEmpty then c else .redirected line c rs
    | none => readSimple nested (do lines; command nested commands n) line ((← rest).length + 1) {}

/-- The commands of a pipeline after its first one. -/
def moreStages (one : Reader Command) : Nat → Reader (List Command)
  | 0 => return []
  | n + 1 => do
    blanks
    match ← rest with
    | '|' :: '|' :: _ => return []
    | '|' :: _ => do
      advance
      lines
      let c ← one
      return c :: (← moreStages one n)
    | _ => return []

/-- A pipeline, which may be negated. -/
def pipeline (one : Reader Command) : Reader Command := do
  let negated := (← keyword?) == some "!"
  if negated then skip 1
  let first ← one
  let more ← moreStages one ((← rest).length + 1)
  let c := if more.isEmpty then first else Command.pipeline (first :: more)
  return if negated then .negated c else c

/-- What follows a pipeline in a chain of `&&` and `||`. -/
def moreChain (pipe : Reader Command) (c : Command) : Nat → Reader Command
  | 0 => return c
  | n + 1 => do
    blanks
    match ← rest with
    | '&' :: '&' :: _ => do
      skip 2
      lines
      moreChain pipe (.both c (← pipe)) n
    | '|' :: '|' :: _ => do
      skip 2
      lines
      moreChain pipe (.either c (← pipe)) n
    | _ => return c

/-- Pipelines joined by `&&` and `||`. -/
def chain (one : Reader Command) : Reader Command := do
  let c ← pipeline one
  moreChain (pipeline one) c ((← rest).length + 1)

/-- Whether a list of commands ends in front of the text. -/
def endsList : Reader Bool := do
  blanks
  match ← rest with
  | [] | ')' :: _ => return true
  | ';' :: ';' :: _ => return true
  | cs =>
    let word := String.ofList (front cs)
    return ["\x7d", "do", "done", "elif", "else", "esac", "fi", "then"].contains word

/-- The commands after the first one of a list. Line ends may stand between them if `across` says so;
otherwise the list ends at the first one. -/
def moreCommands (one : Reader Command) (across : Bool) (c : Command) : Nat → Reader Command
  | 0 => return c
  | n + 1 => do
    blanks
    let (c, more) ← match ← rest with
      | ';' :: ';' :: _ => pure (c, false)
      | ';' :: _ => do advance; pure (c, true)
      | '&' :: '&' :: _ => pure (c, false)
      | '&' :: _ => do advance; pure (Command.background c, true)
      | '\n' :: _ => pure (c, across)
      | _ => pure (c, false)
    if !more then return c
    else do
      if across then lines else blanks
      let stops := match ← rest with
        | '\n' :: _ => true
        | _ => false
      if stops || (← endsList) then return c
      else do
        let next ← chain one
        return .sequence c (← moreCommands one across next n)

/-- Commands up to where their list ends. -/
def list (one : Reader Command) (across : Bool) : Reader Command := do
  let c ← chain one
  moreCommands one across c ((← rest).length + 1)

/-- The readers for what stands inside, down to a depth. -/
def nestedAt : Nat → Nested
  | 0 => ⟨fun _ => throw "nested too deep", throw "nested too deep"⟩
  | n + 1 =>
    let inner := nestedAt n
    let one : Reader Command := do command inner inner.commands ((← rest).length + 1)
    ⟨partsIn inner, do
      lines
      if (← rest).isEmpty then return .skip else list one true⟩

/-- How deep words and commands may stand in each other. -/
def depth : Nat := 200

/-- The parts of a text in which only parameters, outputs and values are filled in. -/
def parts? (text : String) : Option Word :=
  match ((nestedAt depth).parts .here).run { chars := text.toList } with
  | .ok w _ => some w
  | .error _ _ => none

/-- The commands of the next line; none at the end of the script. -/
def nextLine : Reader (Option Command) := do
  lines
  if (← rest).isEmpty then return none
  else do
    let nested := nestedAt depth
    let one : Reader Command := do command nested nested.commands ((← rest).length + 1)
    let c ← list one false
    blanks
    match ← rest with
    | [] => return some c
    | '\n' :: _ => advance; return some c
    | _ => unexpected

end Reader
end ServerTrials.Client.Shell
