import ServerTrials.Client.Utility.Editor.Script
import ServerTrials.Client.Utility.Texts

/-!
The line editor at work: it takes lines one after the other, runs its commands on each, and writes what is
left.
-/

namespace ServerTrials.Client.Utility.Editor

/-- The state of the editor. -/
structure Desk where
  /-- The lines to come, each with whether it has a line end. -/
  input : List (String × Bool)
  count : Nat := 0
  space : List Char := []
  ended : Bool := true
  held : List Char := []
  /-- What was written, the last first, and whether its line end is still missing. -/
  written : List String := []
  open_ : Bool := false
  /-- Texts that follow the current line. -/
  waiting : List String := []
  /-- The commands whose ranges have begun, with the line at which each ends if that is known. -/
  ranges : List (Nat × Option Nat) := []
  used : Option Sought := none
  changed : Bool := false
  /-- What was written to files. -/
  saved : List (String × String) := []
  status : Nat := 0
  finished : Bool := false

/-- How the editor runs. -/
structure Setting where
  commands : Array Command
  silent : Bool
  read : String → Option String

namespace Desk

/-- Writes a text as a line. -/
def write (d : Desk) (text : String) (ended : Bool) : Desk :=
  { d with
    written := ((if d.open_ then "\n" else "") ++ text ++ (if ended then "\n" else "")) :: d.written
    open_ := !ended }

/-- Writes the current line. -/
def print (d : Desk) : Desk := d.write (String.ofList d.space) d.ended

/-- Writes a text that has its line ends. -/
def writeText (d : Desk) (text : String) : Desk :=
  if text = "" then d
  else
    let ended := text.toList.getLast? == some '\n'
    d.write (if ended then String.ofList text.toList.dropLast else text) ended

/-- Writes the texts that follow the current line. -/
def flush (d : Desk) : Desk := { d.waiting.foldl writeText d with waiting := [] }

/-- Takes the next line. -/
def take (d : Desk) : Option Desk :=
  match d.input with
  | [] => none
  | (line, ended) :: rest =>
    some { d.flush with input := rest, count := d.count + 1, space := line.toList, ended }

/-- Writes to a file. -/
def save (d : Desk) (path text : String) : Desk :=
  if path = "/dev/stdout" then d.writeText text else { d with saved := d.saved ++ [(path, text)] }

/-- Where an expression matches in the current line, and the desk that remembers it. -/
def find (d : Desk) (s : Sought) (offset : Nat) : Option Regex.Match × Desk :=
  match s.regex, d.used with
  | some r, _ => (r.find s.style d.space offset, { d with used := some s })
  | none, some ⟨some r, style⟩ => (r.find style d.space offset, d)
  | none, _ => (none, d)

/-! ### Addresses -/

/-- Whether the current line is the one that an address names. -/
def isAt (d : Desk) : Address → Bool × Desk
  | .line n => (d.count == n, d)
  | .last => (d.input.isEmpty, d)
  | .every first 0 => (d.count == first, d)
  | .every first step => (first ≤ d.count && (d.count - first) % step == 0, d)
  | .sought s => let (m, d) := d.find s 0; (m.isSome, d)

/-- The desk after a range of a command has begun, and whether it goes on after this line. -/
def beginRange (d : Desk) (index : Nat) (last : RangeEnd) : Desk :=
  let until_ (n : Nat) : Desk :=
    if n ≤ d.count then d else { d with ranges := (index, some n) :: d.ranges }
  match last with
  | .at (.line n) => until_ n
  | .at .last => if d.input.isEmpty then d else { d with ranges := (index, none) :: d.ranges }
  | .at _ => { d with ranges := (index, none) :: d.ranges }
  | .after n => until_ (d.count + n)
  | .multiple 0 => d
  | .multiple n => until_ ((d.count + n - 1) / n * n)

/-- Whether a command is for the current line, and whether that ends its range. -/
def isFor (d : Desk) (index : Nat) (c : Command) : Bool × Bool × Desk :=
  match c.first, c.last with
  | none, _ => (true, true, d)
  | some a, none =>
    let (yes, d) := d.isAt a
    (yes, true, d)
  | some a, some e =>
    let ends (d : Desk) : Desk := { d with ranges := d.ranges.filter (·.1 ≠ index) }
    match d.ranges.find? (·.1 == index), e with
    | some (_, some n), _ =>
      if d.count < n then (true, false, d)
      else (d.count == n, true, ends d)
    | some (_, none), .at b =>
      let (yes, d) := d.isAt b
      (true, yes, if yes then ends d else d)
    | some (_, none), _ => (true, true, ends d)
    | none, e =>
      let (yes, d) := d.isAt a
      if yes then
        let d := d.beginRange index e
        (true, !(d.ranges.any (·.1 == index)), d)
      else (false, true, d)

/-! ### Substitutions -/

/-- A character in letters of a kind. -/
def cased (c : Casing) (x : Char) : Char :=
  match c with
  | .upper | .upperNext => x.toUpper
  | .lower | .lowerNext => x.toLower
  | .keep => x

/-- What replaces a match: `whole` says how letters are changed, `next` how the next one is. -/
def replacement (text : List Char) (m : Regex.Match) (whole : Casing) (next : Option Casing) :
    List NewPart → List Char
  | [] => []
  | .casing c :: rest =>
    match c with
    | .upperNext | .lowerNext => replacement text m whole (some c) rest
    | .keep | .upper | .lower => replacement text m c next rest
  | .text c :: rest => cased (next.getD whole) c :: replacement text m whole none rest
  | .group n :: rest =>
    match m.taken text n with
    | [] => replacement text m whole next rest
    | c :: cs => cased (next.getD whole) c :: cs.map (cased whole) ++ replacement text m whole none rest

/-- The text after a substitution of matches from a number on, and whether there were any. -/
def substituted (new : List NewPart) (all : Bool) (number : Nat) (text : List Char) (ms : List Regex.Match) :
    List Char × Bool :=
  let counted := ms.zipIdx.map fun m => (m.1, m.2 + 1)
  let meant := counted.filter fun m => if all then number ≤ m.2 else m.2 = number
  let (out, offset) := meant.foldl (fun (acc : List Char × Nat) m =>
    (acc.1 ++ (text.drop acc.2).take (m.1.start - acc.2) ++ replacement text m.1 .keep none new, m.1.stop))
    ([], 0)
  (out ++ text.drop offset, !meant.isEmpty)

/-- Substitutes in the current line. -/
def substitute (d : Desk) (s : Sought) (new : List NewPart) (all : Bool) (number : Nat) : Bool × Desk :=
  let (r, style, d) := match s.regex, d.used with
    | some r, _ => (some r, s.style, { d with used := some s })
    | none, some u => (u.regex, u.style, d)
    | none, none => (none, s.style, d)
  match r with
  | none => (false, d)
  | some r =>
    let (text, any) := substituted new all number d.space (r.all style d.space)
    if any then (true, { d with space := text, changed := true }) else (false, d)

/-! ### Commands -/

/-- What comes after a command: the next one at an index, the end of the turn with or without writing the
line, or a turn that begins with what is left of the line. -/
inductive Step where
  | goTo (index : Nat)
  | done (print : Bool)
  | again

/-- The current line as it is listed. -/
def listed (cs : List Char) : String :=
  let shown (c : Char) : String :=
    match c with
    | '\\' => "\\\\"
    | '\n' => "\\n"
    | '\t' => "\\t"
    | '\r' => "\\r"
    | '\x07' => "\\a"
    | '\x08' => "\\b"
    | '\x0c' => "\\f"
    | '\x0b' => "\\v"
    | c =>
      if 32 ≤ c.toNat && c.toNat < 127 then String.ofList [c]
      else
        let ds := Nat.toDigits 8 c.toNat
        "\\" ++ String.ofList (List.replicate (3 - ds.length) '0' ++ ds)
  let pieces := cs.map shown
  let (lines, last) := pieces.foldl (fun (acc : List String × String) p =>
    if 69 < acc.2.length + p.length then (acc.1 ++ [acc.2 ++ "\\\n"], p) else (acc.1, acc.2 ++ p)) ([], "")
  String.join lines ++ last ++ "$\n"

/-- The place of a label; the end of the script if there is no name. -/
def labelPlace (s : Setting) (name : String) : Nat :=
  if name = "" then s.commands.size
  else (s.commands.findIdx? fun c =>
    match c.verb with
    | .label n => n == name
    | _ => false).getD s.commands.size

/-- Carries out a command at an index. -/
def act (s : Setting) (d : Desk) (index : Nat) (ends : Bool) (c : Command) : Desk × Step :=
  let onward := Step.goTo (index + 1)
  match c.verb with
  | .substitute sought new all number print file =>
    let (any, d) := d.substitute sought new all number
    let d := if any && print then d.print else d
    let d := match any, file with
      | true, some path => d.save path (String.ofList d.space ++ "\n")
      | _, _ => d
    (d, onward)
  | .exchange table =>
    ({ d with space := d.space.map fun c => ((table.find? (·.1 == c)).map (·.2)).getD c }, onward)
  | .delete => ({ d with space := [] }, .done false)
  | .deleteFirst =>
    if d.space.contains '\n' then
      ({ d with space := (d.space.dropWhile (· != '\n')).drop 1 }, .again)
    else (d, .done false)
  | .print => (d.print, onward)
  | .printFirst => (d.write (String.ofList (d.space.takeWhile (· != '\n'))) true, onward)
  | .next =>
    if d.input.isEmpty then ({ d with finished := true }, .done true)
    else
      let d := if s.silent then d else d.print
      ((d.take).getD d, onward)
  | .join =>
    if d.input.isEmpty then ({ d with finished := true }, .done true)
    else
      match d.take with
      | some e => ({ e with space := d.space ++ '\n' :: e.space }, onward)
      | none => (d, onward)
  | .hold => ({ d with held := d.space }, onward)
  | .holdMore => ({ d with held := d.held ++ '\n' :: d.space }, onward)
  | .fetch => ({ d with space := d.held }, onward)
  | .fetchMore => ({ d with space := d.space ++ '\n' :: d.held }, onward)
  | .swap => ({ d with space := d.held, held := d.space }, onward)
  | .number => (d.write (toString d.count) true, onward)
  | .list => (d.writeText (listed d.space), onward)
  | .clear => ({ d with space := [] }, onward)
  | .append text => ({ d with waiting := d.waiting ++ [text] }, onward)
  | .insert text => (d.writeText text, onward)
  | .change text =>
    (if ends || c.negated then d.writeText text else d, .done false)
  | .readFile path => ({ d with waiting := d.waiting ++ (s.read path).toList }, onward)
  | .writeFile path => (d.save path (String.ofList d.space ++ "\n"), onward)
  | .quit status => ({ d with finished := true, status }, .done true)
  | .quitSilently status => ({ d with finished := true, status, waiting := [] }, .done false)
  | .label _ => (d, onward)
  | .jump name => (d, .goTo (labelPlace s name))
  | .jumpIfChanged name =>
    if d.changed then ({ d with changed := false }, .goTo (labelPlace s name)) else (d, onward)
  | .jumpUnlessChanged name =>
    if d.changed then ({ d with changed := false }, onward) else (d, .goTo (labelPlace s name))
  | .block _ => (d, onward)

/-- Runs the commands from an index on; answers whether the line is written and whether the next turn begins
with what is left. Each turn takes a command. -/
def runFrom (s : Setting) : Nat → Nat → Desk → Desk × Step
  | 0, _, d => ({ d with finished := true }, .done false)
  | n + 1, index, d =>
    match s.commands[index]? with
    | none => (d, .done true)
    | some c =>
      let (yes, ends, d) := d.isFor index c
      let next : Desk × Step :=
        if yes != c.negated then d.act s index ends c
        else
          match c.verb with
          | .block size => (d, .goTo (index + size + 1))
          | _ => (d, .goTo (index + 1))
      match next with
      | (d, .goTo k) => runFrom s n k d
      | stop => stop

/-- How many commands may run for a line. -/
def commandLimit : Nat := 1000000

/-- Takes the lines one after the other. `fresh` says whether a new line is to be taken. -/
def runLines (s : Setting) : Nat → Bool → Desk → Desk
  | 0, _, d => d
  | n + 1, fresh, d =>
    match (if fresh then ({ d with changed := false }).take else some d) with
    | none => d.flush
    | some d =>
      let (d, step) := runFrom s commandLimit 0 d
      let print := match step with
        | .done p => p
        | _ => false
      let d := if print && !s.silent then d.print else d
      let d := d.flush
      if d.finished then d
      else
        match step with
        | .again => runLines s n false d
        | _ => runLines s n true d

end Desk

/-- The labels that jumps in a script name but that are not there. -/
def missingLabel? (cs : List Command) : Option String :=
  let labels := cs.filterMap fun c =>
    match c.verb with
    | .label n => some n
    | _ => none
  (cs.filterMap fun c =>
    match c.verb with
    | .jump n | .jumpIfChanged n | .jumpUnlessChanged n => some n
    | _ => none).find? fun n => n ≠ "" && !labels.contains n

/-- The ranges that have begun before the first line. -/
def openRanges (cs : List Command) : List (Nat × Option Nat) :=
  cs.zipIdx.filterMap fun c =>
    match c.1.first with
    | some (.line 0) => some (c.2, none)
    | _ => none

/-- Lines with whether each has a line end. -/
def inputLines (text : String) : List (String × Bool) :=
  (endedLines text).map fun l =>
    if l.toList.getLast? == some '\n' then (String.ofList l.toList.dropLast, true) else (l, false)

/-- Edits lines. -/
def program : Program := do
  let (given, operands) ← options
    { letters := "ne:f:Erisuzl:", names := [("quiet", 'n'), ("silent", 'n'), ("expression", 'e'),
        ("file", 'f'), ("regexp-extended", 'E'), ("separate", 's'), ("in-place", 'i'), ("unbuffered", 'u')] }
  let parts ← (given.filter fun g => g.1 == 'e' || g.1 == 'f').mapM fun g => do
    if g.1 == 'e' then return g.2
    else
      match ← contentOf g.2 with
      | .ok text => return (if text.toList.getLast? == some '\n' then String.ofList text.toList.dropLast else text)
      | .error e => fail ("couldn't open file " ++ g.2 ++ ": " ++ e)
  let (script, paths) ← match parts, operands with
    | [], s :: paths => pure (s, paths)
    | [], [] => do
      warn "Usage: sed [OPTION]... \x7bscript-only-if-no-other-script\x7d [input-file]...\n"
      stopWith 1
    | parts, paths => pure ("\n".intercalate parts, paths)
  match ofText (has given 'E' || has given 'r') script with
  | .error (n, e) => fail ("-e expression #1, char " ++ toString n ++ ": " ++ e)
  | .ok cs => do
    (missingLabel? cs).forM fun l => fail ("can't find label for jump to \x60" ++ l ++ "'")
    let files := (← get).files
    let r ← read
    let setting : Setting :=
      { commands := cs.toArray
        silent := has given 'n' || "#n\n".toList.isPrefixOf script.toList
        read := fun path =>
          match files.find r.cwd path with
          | .ok (_, .file text _) => some text
          | _ => none }
    let run (input : List (String × Bool)) : Desk :=
      Desk.runLines setting (2 * input.length + turnLimit) true { input, ranges := openRanges cs }
    let finish (d : Desk) : Work Unit := do
      leave (max (← get).status d.status)
      for path in (d.saved.map (·.1)).eraseDups do
        if path ≠ "/dev/null" then
          store path (String.join ((d.saved.filter (·.1 == path)).map (·.2)))
    if has given 'i' then
      for path in paths do
        match ← contentOf path with
        | .ok text => do
          let d := run (inputLines text)
          store path (String.join d.written.reverse)
          finish d
        | .error e => complain ("can't read " ++ path ++ ": " ++ e)
    else do
      let mut input := []
      for path in (if paths.isEmpty then ["-"] else paths) do
        match ← contentOf path with
        | .ok text => input := (input.map fun l => (l.1, true)) ++ inputLines text
        | .error e =>
          if e = "Is a directory" then complain ("couldn't edit " ++ path ++ ": not a regular file")
          else complain ("can't read " ++ path ++ ": " ++ e) 2
      let d := run input
      put (String.join d.written.reverse)
      finish d
where
  /-- How many turns may begin with what is left of a line. -/
  turnLimit : Nat := 100000

end ServerTrials.Client.Utility.Editor
