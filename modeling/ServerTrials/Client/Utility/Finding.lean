import ServerTrials.Client.Pattern
import ServerTrials.Client.Utility.Places

/-!
Programs that look at files: which ones there are, what they are, and how two of them differ.
-/

namespace ServerTrials.Client.Utility

/-! ### Finding -/

/-- A question about a file. -/
inductive Sought where
  | name (p : Pattern) (anyCase : Bool)
  | path (p : Pattern)
  | kind (letter : Char)
  | empty
  /-- Whether a size in units of that many bytes is less than, the same as or more than a number. -/
  | size (sign : Ordering) (n unit : Nat)
  | always
  | print (ending : String)
  | delete
  /-- Has a command done, in which `{}` stands for the path. -/
  | run (words : List String)
  | not (s : Sought)
  | and (a b : Sought)
  | or (a b : Sought)

namespace Sought

/-- Whether a question does something, so that paths are not written by themselves. -/
def acts : Sought → Bool
  | .print _ | .delete | .run _ => true
  | .not s => s.acts
  | .and a b | .or a b => a.acts || b.acts
  | _ => false

/-- Reads the words of a question. -/
abbrev Reader := StateT (List String) (Except String)

/-- The word after a question's name. -/
def argument (name : String) : Reader String := do
  match ← get with
  | w :: ws => do
    set ws
    return w
  | [] => throw ("missing argument to \x60" ++ name ++ "'")

/-- The size that a text such as `+3k` asks for. -/
def ofSize (s : String) : Option Sought :=
  let (sign, rest) : Ordering × List Char := match s.toList with
    | '+' :: cs => (.gt, cs)
    | '-' :: cs => (.lt, cs)
    | cs => (.eq, cs)
  let ds := rest.takeWhile Char.isDigit
  let unit? : Option Nat := match rest.drop ds.length with
    | [] | ['b'] => some 512
    | ['c'] => some 1
    | ['w'] => some 2
    | ['k'] => some 1024
    | ['M'] => some 1048576
    | _ => none
  match digits? (String.ofList ds), unit? with
  | some n, some u => some (.size sign n u)
  | _, _ => none

/-- One question; those in parentheses are read by `whole`. -/
def one (whole : Reader Sought) : Nat → Reader Sought
  | 0 => throw "expected an expression"
  | n + 1 => do
    match ← get with
    | [] => throw "expected an expression"
    | w :: ws => do
      set ws
      match w with
      | "!" | "-not" => return .not (← one whole n)
      | "(" => do
        let s ← whole
        match ← get with
        | ")" :: ws => do
          set ws
          return s
        | _ => throw "invalid expression; I was expecting to find a ')' somewhere but did not see one."
      | "-name" => return .name (Pattern.ofString (← argument w)) false
      | "-iname" => return .name (Pattern.ofString (← argument w).toLower) true
      | "-path" | "-wholename" => return .path (Pattern.ofString (← argument w))
      | "-type" => do
        let a ← argument w
        match a.toList with
        | [c] => if "bcdpflsD".toList.contains c then return .kind c else throw ("Unknown argument to -type: " ++ a)
        | _ => throw ("Unknown argument to -type: " ++ a)
      | "-empty" => return .empty
      | "-size" => do
        let a ← argument w
        match ofSize a with
        | some s => return s
        | none => throw ("Invalid argument \x60" ++ a ++ "' to -size")
      | "-true" => return .always
      | "-print" => return .print "\n"
      | "-print0" => return .print "\x00"
      | "-delete" => return .delete
      | "-exec" => do
        let all ← get
        let words := all.takeWhile fun w => w ≠ ";" && w ≠ "+"
        if words.length = all.length then throw "missing argument to \x60-exec'"
        set (all.drop (words.length + 1))
        return .run words
      | w => throw ("unknown predicate \x60" ++ w ++ "'")

/-- Questions that all have to hold. -/
def all (whole : Reader Sought) : Nat → Reader Sought
  | 0 => throw "expected an expression"
  | n + 1 => do
    let a ← one whole ((← get).length + 1)
    match ← get with
    | [] | "-o" :: _ | "-or" :: _ | ")" :: _ => return a
    | "-a" :: ws | "-and" :: ws => do
      set ws
      return .and a (← all whole n)
    | _ => return .and a (← all whole n)

/-- Questions of which one has to hold; `depth` bounds how deep they stand in each other. -/
def some_ : Nat → Reader Sought
  | 0 => throw "expected an expression"
  | depth + 1 => do
    let a ← all (some_ depth) ((← get).length + 1)
    match ← get with
    | "-o" :: ws | "-or" :: ws => do
      set ws
      return .or a (← some_ depth)
    | _ => return a

/-- A word in quotes for a shell. -/
def quoted (w : String) : String := inQuotes (w.replace "'" "'\\''")

/-- Answers a question about what lies at a place. -/
def holds (path place : String) (node : Node) : Sought → Work Bool
  | .name p anyCase => return p.accepts (if anyCase then (baseName path).toLower else baseName path).toList
  | .path p => return p.accepts path.toList
  | .kind c =>
    return match node with
      | .directory => c == 'd'
      | .file .. => c == 'f'
      | .device _ => c == 'c'
  | .empty => do
    match node with
    | .directory => return ((← get).files.names place).isEmpty
    | .file content _ => return content = ""
    | .device _ => return false
  | .size sign n unit =>
    return match node with
      | .file content _ => compare ((content.length + unit - 1) / unit) n == sign
      | _ => compare ((4096 + unit - 1) / unit) n == sign
  | .always => return true
  | .print ending => do
    put (path ++ ending)
    return true
  | .delete => do
    modify fun d => { d with files := d.files.remove place }
    return true
  | .run words => do
    order (" ".intercalate (words.map fun w => quoted (w.replace "\x7b\x7d" path))) ""
    return true
  | .not s => return !(← holds path place node s)
  | .and a b => do if ← holds path place node a then holds path place node b else return false
  | .or a b => do if ← holds path place node a then return true else holds path place node b

end Sought

/-- What lies at a path and below it, each with its depth; what lies deeper comes first if `below` says so. -/
def pathsBelow (files : Files) (below : Bool) : Nat → Nat → String → String → List (String × String × Nat)
  | 0, _, _, _ => []
  | n + 1, depth, path, place =>
    let inner := match files.node? place with
      | some .directory => (files.names place).flatMap fun m =>
        pathsBelow files below n (depth + 1) (if path.toList.getLast? == some '/' then path ++ m else path ++ "/" ++ m)
          (if place = "/" then "/" ++ m else place ++ "/" ++ m)
      | _ => []
    if below then inner ++ [(path, place, depth)] else (path, place, depth) :: inner

/-- Takes an option with a number out of words. -/
def takeDepth (name : String) : List String → Except String (Option Nat × List String)
  | [] => .ok (none, [])
  | w :: ws =>
    if w = name then
      match ws with
      | [] => .error ("missing argument to \x60" ++ name ++ "'")
      | v :: ws =>
        match digits? v with
        | some n => .ok (some n, ws)
        | none => .error ("Expected a positive decimal integer argument to " ++ name ++ ", but got " ++ quotedText v)
    else do
      let (n, ws) ← takeDepth name ws
      .ok (n, w :: ws)

/-- The question of words, and the least and greatest depth. -/
def readSought (words : List String) : Except String (Sought × Nat × Nat) := do
  let (most, words) ← takeDepth "-maxdepth" words
  let (least, words) ← takeDepth "-mindepth" words
  let words := words.filter fun w => w ≠ "-depth" && w ≠ "-mount" && w ≠ "-xdev"
  if words.isEmpty then return (.print "\n", least.getD 0, most.getD 1000)
  let (s, rest) ← (Sought.some_ (words.length + 1)).run words
  match rest with
  | ")" :: _ => throw "invalid expression; you have too many ')'"
  | w :: _ => throw ("paths must precede expression: \x60" ++ w ++ "'")
  | [] => return (if s.acts then s else .and s (.print "\n"), least.getD 0, most.getD 1000)

/-- Finds files. -/
def find : Program := do
  let r ← read
  let isPath (a : String) : Bool := a.toList.head? != some '-' && a ≠ "(" && a ≠ "!"
  let args := if r.args.head? == some "--" then r.args.drop 1 else r.args
  let paths := args.takeWhile isPath
  match readSought (args.drop paths.length) with
  | .error e => fail e
  | .ok (sought, least, most) =>
    for path in (if paths.isEmpty then ["."] else paths) do
      let files := (← get).files
      match files.find r.cwd path with
      | .error e => complain (quotedText path ++ ": " ++ e.wording)
      | .ok (place, _) =>
        let below := r.args.contains "-delete" || r.args.contains "-depth"
        for (path, place, depth) in pathsBelow files below 100 0 path place do
          if least ≤ depth && depth ≤ most then
            match files.node? place with
            | some node => discard (sought.holds path place node)
            | none => pure ()

/-! ### Properties -/

/-- The kind of what lies at a place. -/
def kindText : Node → String
  | .directory => "directory"
  | .file "" _ => "regular empty file"
  | .file .. => "regular file"
  | .device _ => "character special file"

/-- The mode of what lies at a place, in digits and in letters. -/
def modeText : Node → String × String
  | .directory => ("755", "drwxr-xr-x")
  | .file _ true => ("755", "-rwxr-xr-x")
  | .file _ false => ("644", "-rw-r--r--")
  | .device _ => ("666", "crw-rw-rw-")

/-- The properties of a file by a format. -/
def propertiesOf (path : String) (node : Node) (size : Nat) : List Char → List Char
  | '%' :: c :: cs =>
    let s := match c with
      | 'n' => path
      | 's' => toString size
      | 'F' => kindText node
      | 'a' => (modeText node).1
      | 'A' => (modeText node).2
      | 'U' | 'G' => "root"
      | 'u' | 'g' => "0"
      | 'h' => "1"
      | 'N' => shown path
      | '%' => "%"
      | c => String.ofList ['%', c]
    s.toList ++ propertiesOf path node size cs
  | c :: cs => c :: propertiesOf path node size cs
  | [] => []

/-- Writes properties of files. -/
def stat : Program := do
  let (given, operands) ← options
    { letters := "c:fLt", names := [("format", 'c'), ("printf", 'c'), ("dereference", 'L')] }
  if operands.isEmpty then misuse "missing operand"
  let r ← read
  for path in operands do
    match (← get).files.find r.cwd path with
    | .ok (_, node) =>
      let size := match node with
        | .file content _ => content.length
        | .directory => 4096
        | .device _ => 0
      let format := (argument? given 'c').getD "  File: %n\n  Size: %s"
      put (String.ofList (propertiesOf path node size format.toList) ++ "\n")
    | .error e => complain ("cannot statx " ++ quotedName path ++ ": " ++ e.wording)

/-! ### Differences -/

/-- Where two texts differ first: the place and its line, from one on; none if one is the beginning of the
other. -/
def firstDifference : Nat → Nat → List Char → List Char → Option (Nat × Nat)
  | n, l, a :: as, b :: bs =>
    if a == b then firstDifference (n + 1) (if a == '\n' then l + 1 else l) as bs else some (n, l)
  | _, _, _, _ => none

/-- What is in the way to a path that is no name for the input. -/
def obstacle? (path : String) : Work (Option String) := do
  if path = "-" then return none
  match (← get).files.find (← read).cwd path with
  | .ok _ => return none
  | .error e => return some e.wording

/-- Tells whether two files are the same. -/
def cmp : Program := do
  let o : Options :=
    { letters := "bci:ln:s", names := [("silent", 's'), ("quiet", 's'), ("print-bytes", 'b')], status := 2
      again := true }
  let (given, operands) ← options o
  match operands with
  | [] => o.refuse ("missing operand after " ++ inQuotes (((← read).args.getLast?).getD (← read).name))
  | [a] | [a, _] => do
    let b := operands[1]?.getD "-"
    let blame (path e : String) : Work Unit :=
      if has given 's' then stopWith 2 else fail (path ++ ": " ++ e) 2
    for path in [a, b] do
      match ← obstacle? path with
      | some e => blame path e
      | none => pure ()
    match ← contentOf a, ← contentOf b with
    | .error e, _ => blame a e
    | _, .error e => blame b e
    | .ok x, .ok y =>
      if x ≠ y then
        leave 1
        if !has given 's' then
          match firstDifference 1 1 x.toList y.toList with
          | some (n, l) => put (a ++ " " ++ b ++ " differ: char " ++ toString n ++ ", line " ++ toString l ++ "\n")
          | none =>
            let (name, short) := if x.length < y.length then (a, x) else (b, y)
            if short = "" then complain ("EOF on " ++ name ++ " which is empty")
            else
              let lines := (short.toList.filter (· == '\n')).length
              let whole := short.toList.getLast? == some '\n'
              complain ("EOF on " ++ name ++ " after byte " ++ toString short.length ++ ", "
                ++ (if whole then "line " ++ toString lines else "in line " ++ toString (lines + 1)))
  | _ :: _ :: c :: _ => o.refuse ("extra operand " ++ inQuotes c)

/-- A step from one list of lines to another one. -/
inductive Change where
  | keep (line : String)
  | drop (line : String)
  | add (line : String)
  deriving DecidableEq, Repr

/-- How long the longest common parts of the ends of two lists are: a row for every end of the first. -/
def commonRows (as bs : List String) : List (List Nat) :=
  as.foldr (fun a rows =>
    let below := rows.headD (List.replicate (bs.length + 1) 0)
    let row := ((bs.zip (below.zip (below.drop 1))).foldr (fun (b, here, next) (acc : List Nat) =>
      (if a = b then next + 1 else max here (acc.headD 0)) :: acc) [0])
    row :: rows) [List.replicate (bs.length + 1) 0]

/-- The steps from one list of lines to another one; lines go before others come. -/
def changes : List String → List String → List (List Nat) → List Change
  | [], bs, _ => bs.map .add
  | a :: as, bs, rows =>
    let row := rows.headD []
    let below := (rows.drop 1).headD []
    let rec along : List String → List Nat → List Nat → List Change
      | [], _, _ => .drop a :: changes as [] (rows.drop 1)
      | b :: bs, row, below =>
        if a = b then .keep a :: changes as bs ((rows.drop 1).map fun r => r.drop (r.length - bs.length - 1))
        else if (row.drop 1).headD 0 ≤ below.headD 0 then
          .drop a :: changes as (b :: bs) ((rows.drop 1).map fun r => r.drop (r.length - bs.length - 2))
        else .add b :: along bs (row.drop 1) (below.drop 1)
    along bs row below

/-- Line numbers of a range. -/
def rangeText (first count : Nat) : String :=
  if count ≤ 1 then toString first else toString first ++ "," ++ toString (first + count - 1)

/-- The steps as they are shown: runs of changes with the numbers of their lines. -/
def shownChanges : Nat → Nat → Nat → List Change → List String
  | 0, _, _, _ => []
  | _, _, _, [] => []
  | n + 1, i, j, .keep _ :: cs => shownChanges n (i + 1) (j + 1) cs
  | n + 1, i, j, cs =>
    let run := cs.takeWhile fun c => !(c matches .keep _)
    let gone := run.filterMap fun c =>
      match c with
      | .drop l => some l
      | _ => none
    let come := run.filterMap fun c =>
      match c with
      | .add l => some l
      | _ => none
    let head := match gone, come with
      | [], _ => toString (i - 1) ++ "a" ++ rangeText j come.length
      | _, [] => rangeText i gone.length ++ "d" ++ toString (j - 1)
      | _, _ => rangeText i gone.length ++ "c" ++ rangeText j come.length
    head :: (gone.map ("< " ++ ·) ++ (if gone.isEmpty || come.isEmpty then [] else ["---"]) ++ come.map ("> " ++ ·))
      ++ shownChanges n (i + gone.length) (j + come.length) (cs.drop run.length)

/-- Writes how two files differ. -/
def diff : Program := do
  let o : Options :=
    { letters := "0123456789abBcC:dD:eEfF:hHiI:lL:nNpPqrsS:tTuU:vwW:x:X:y"
      names := [("brief", 'q'), ("unified", 'u')], status := 2, again := true }
  let (given, operands) ← options o
  match operands with
  | [] | [_] => o.refuse ("missing operand after " ++ inQuotes (((← read).args.getLast?).getD (← read).name))
  | [a, b] => do
    for path in [a, b] do
      match ← obstacle? path with
      | some e => complain (path ++ ": " ++ e) 2
      | none => pure ()
    if (← get).status ≠ 0 then stop
    let isDirectory (path : String) : Work Bool := do
      return (← get).files.find (← read).cwd path matches .ok (_, .directory)
    let (a, b) := match ← isDirectory a, ← isDirectory b with
      | true, false => (a ++ "/" ++ baseName b, b)
      | false, true => (a, b ++ "/" ++ baseName a)
      | _, _ => (a, b)
    match ← contentOf a, ← contentOf b with
    | .error e, _ => fail (a ++ ": " ++ e) 2
    | _, .error e => fail (b ++ ": " ++ e) 2
    | .ok x, .ok y =>
      if x ≠ y then
        leave 1
        if has given 'q' then put ("Files " ++ a ++ " and " ++ b ++ " differ\n")
        else
          let (as, bs) := (linesOf x, linesOf y)
          let cs := changes as bs (commonRows as bs)
          putLines (shownChanges (cs.length + 1) 1 1 cs)
  | _ :: _ :: c :: _ => o.refuse ("extra operand " ++ inQuotes c)

end ServerTrials.Client.Utility
