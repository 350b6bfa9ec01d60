import ServerTrials.Client.Files
import ServerTrials.Client.Utility.Quoting

/-!
The programs of a machine: what one is given, what it does, and how it speaks.

A program writes, changes files, takes time and ends with a status. It may end early, and then what it has
done so far stays done.
-/

namespace ServerTrials.Client.Utility

/-- What a program finds as its input. -/
inductive Input where
  | closed
  | directory
  /-- Pieces with the times at which they come. -/
  | pieces (ps : List (Nat × List Char))
  deriving DecidableEq, Repr

/-- What a program is given. -/
structure Request where
  name : String
  args : List String
  env : List (String × String)
  cwd : String
  mask : Nat
  input : Input
  /-- Whether it can write to its output. -/
  writes : Bool

/-- Something written: to which descriptor, and at what time if it is not the end. With a command the text is
the input of that. -/
structure Written where
  descriptor : Nat
  text : String
  time : Option Nat := none
  command : Option String := none
  deriving DecidableEq, Repr

/-- What a program has done so far. -/
structure Done where
  files : Files
  /-- What it wrote, the last first. -/
  written : List Written := []
  status : Nat := 0
  /-- Whether it took its input, and how much of it if not all. -/
  took : Bool := false
  takes : Option Nat := none
  /-- How many microseconds it slept; none if it never ends. -/
  slept : Option Nat := some 0
  /-- Its status if it cannot write. -/
  unwritten : Nat := 1
  /-- How many names it made up. -/
  namesMade : Nat := 0

/-- The work of a program. -/
abbrev Work := ReaderT Request (ExceptT Unit (StateM Done))

/-- A program. -/
abbrev Program := Work Unit

/-! ### Speaking -/

/-- Writes to the output. -/
def put (text : String) : Work Unit :=
  modify fun d => { d with written := { descriptor := 1, text } :: d.written }

/-- Writes lines to the output. -/
def putLines (ls : List String) : Work Unit := put (unlines ls)

/-- Writes to the error output. -/
def warn (text : String) : Work Unit :=
  modify fun d => { d with written := { descriptor := 2, text } :: d.written }

/-- Has a command done with a text as its input. -/
def order (command text : String) : Work Unit :=
  modify fun d => { d with written := { descriptor := 1, text, command := some command } :: d.written }

/-- Sets the status. -/
def leave (status : Nat) : Work Unit := modify ({ · with status })

/-- Writes a complaint and sets a status. -/
def complain (text : String) (status : Nat := 1) : Work Unit := do
  warn ((← read).name ++ ": " ++ text ++ "\n")
  leave status

/-- Ends. -/
def stop {α : Type} : Work α := throw ()

/-- Ends with a status. -/
def stopWith {α : Type} (status : Nat) : Work α := do
  leave status
  stop

/-- Ends with a complaint. -/
def fail {α : Type} (text : String) (status : Nat := 1) : Work α := do
  complain text status
  stop

/-- Ends with a complaint about how the program was called. -/
def misuse {α : Type} (text : String) (status : Nat := 1) : Work α := do
  let name := (← read).name
  fail (text ++ "\nTry '" ++ name ++ " --help' for more information.") status

/-! ### Options -/

/-- An option and its argument, empty if it takes none. -/
abbrev Given := Char × String

/-- The letters that stand for options and the names that stand for letters. A letter with a colon after it
takes an argument. -/
structure Options where
  letters : String
  names : List (String × Char) := []
  /-- The status of a wrong call. -/
  status : Nat := 1
  /-- Whether the first operand ends the options. -/
  ordered : Bool := false
  /-- What is said before the advice to ask for help. -/
  usage : String := ""
  /-- Whether the program names itself once more with that advice. -/
  again : Bool := false

namespace Options

/-- Ends with a complaint about how a program with these options was called. -/
def refuse {α : Type} (o : Options) (text : String) : Work α := do
  let name := (← read).name
  fail (text ++ "\n" ++ o.usage ++ (if o.again then name ++ ": " else "") ++ "Try '" ++ name
    ++ " --help' for more information.") o.status

/-- Whether a letter stands for an option, and whether that takes an argument. -/
def kind? (o : Options) (c : Char) : Option Bool :=
  match o.letters.toList.dropWhile (· != c) with
  | ':' :: _ | [] => none
  | _ :: ':' :: _ => some true
  | _ => some false

/-- The options in the letters of an argument, and the option whose argument is to follow. -/
def lettersOf (o : Options) : List Char → Work (List Given × Option Char)
  | [] => return ([], none)
  | c :: cs => do
    match o.kind? c, cs with
    | none, _ => o.refuse ("invalid option -- " ++ inQuotes (String.ofList [c]))
    | some false, cs => do
      let (more, open?) ← o.lettersOf cs
      return ((c, "") :: more, open?)
    | some true, [] => return ([], some c)
    | some true, cs => return ([(c, String.ofList cs)], none)

/-- The option that a name stands for, which may be cut short where no other one begins like it. -/
def named (o : Options) (name : String) : Work (String × Char) := do
  match o.names.find? (·.1 == name) with
  | some n => return n
  | none =>
    match o.names.filter fun n => name.toList.isPrefixOf n.1.toList with
    | [] => o.refuse ("unrecognized option " ++ inQuotes ("--" ++ name))
    | n :: more =>
      if more.all (·.2 == n.2) then return n
      else o.refuse ("option " ++ inQuotes ("--" ++ name) ++ " is ambiguous")

/-- The options and the operands among arguments. -/
def split (o : Options) : List String → Work (List Given × List String)
  | [] => return ([], [])
  | a :: rest => do
    match a.toList with
    | ['-', '-'] => return ([], rest)
    | '-' :: '-' :: long =>
      let word := String.ofList (long.takeWhile (· != '='))
      let (name, letter) ← o.named word
      let value := if long.contains '=' then some (String.ofList (long.drop (word.length + 1))) else none
      match o.kind? letter, value, rest with
      | some true, some v, rest => do
        let (given, operands) ← o.split rest
        return ((letter, v) :: given, operands)
      | some true, none, v :: rest => do
        let (given, operands) ← o.split rest
        return ((letter, v) :: given, operands)
      | some true, none, [] =>
        o.refuse ("option " ++ inQuotes ("--" ++ name) ++ " requires an argument")
      | _, some _, _ =>
        o.refuse ("option " ++ inQuotes ("--" ++ name) ++ " doesn't allow an argument")
      | _, none, rest => do
        let (given, operands) ← o.split rest
        return ((letter, "") :: given, operands)
    | '-' :: c :: cs => do
      let (found, open?) ← o.lettersOf (c :: cs)
      match open?, rest with
      | none, rest => do
        let (given, operands) ← o.split rest
        return (found ++ given, operands)
      | some p, v :: rest => do
        let (given, operands) ← o.split rest
        return (found ++ (p, v) :: given, operands)
      | some p, [] =>
        o.refuse ("option requires an argument -- " ++ inQuotes (String.ofList [p]))
    | _ =>
      if o.ordered then return ([], a :: rest)
      else do
        let (given, operands) ← o.split rest
        return (given, a :: operands)

end Options

/-- Whether an option was given. -/
def has (given : List Given) (c : Char) : Bool := given.any (·.1 == c)

/-- The argument of an option, the last one that was given. -/
def argument? (given : List Given) (c : Char) : Option String :=
  (given.reverse.find? (·.1 == c)).map (·.2)

/-- The options and operands of the program. -/
def options (o : Options) : Work (List Given × List String) := do
  modify ({ · with unwritten := o.status })
  o.split (← read).args

/-- Refuses operands beyond a number of them. -/
def atMost (n : Nat) (operands : List String) (status : Nat := 1) : Work Unit := do
  match operands.drop n with
  | a :: _ => misuse ("extra operand " ++ quotedText a) status
  | [] => pure ()

/-! ### Inputs -/

/-- Takes the input. -/
def takeInput : Work (Except String String) := do
  let r ← read
  let d ← get
  if d.took then return .ok ""
  else
    match r.input with
    | .closed => return .error "Bad file descriptor"
    | .directory => return .error "Is a directory"
    | .pieces ps => do
      set { d with took := true }
      return .ok (String.ofList (ps.flatMap (·.2)))

/-- The content of a file, or of the input if that is what a path names. -/
def contentOf (path : String) : Work (Except String String) := do
  if ["-", "/dev/stdin", "/dev/fd/0", "/proc/self/fd/0"].contains path then takeInput
  else
    match (← get).files.find (← read).cwd path with
    | .ok (_, .file content _) => return .ok content
    | .ok (_, .directory) => return .error "Is a directory"
    | .ok (_, .device .null) => return .ok ""
    | .ok (_, .device _) => do
      modify ({ · with slept := none })
      return .ok (String.ofList (List.replicate 400000 '\x00'))
    | .error e => return .error e.wording

/-- The contents of files, or of the input if there are none, each with its path. Files that cannot be read
are complained about in the words of `blame`. -/
def contents (paths : List String) (blame : String → String → String) (status : Nat := 1) :
    Work (List (String × String)) := do
  let mut texts := []
  for path in (if paths.isEmpty then ["-"] else paths) do
    match ← contentOf path with
    | .ok text => texts := texts ++ [(path, text)]
    | .error e => complain (blame path e) status
  return texts

/-- Puts a file at a path, in place of what was there. -/
def store (path text : String) : Work Unit := do
  let place := Files.locate (← read).cwd path
  modify fun d => { d with files := d.files.put place (.file text false) }

/-- A path and what is wrong with it. -/
def blamePath (path reason : String) : String := shown path ++ ": " ++ reason

/-- A path that cannot be opened, and why. -/
def blameOpening (path reason : String) : String :=
  "cannot open " ++ quotedName path ++ " for reading: " ++ reason

/-! ### Numbers -/

/-- The number that a text of digits is. -/
def digits? (s : String) : Option Nat :=
  if s ≠ "" && s.toList.all Char.isDigit then
    some (s.toList.foldl (fun n c => n * 10 + (c.toNat - '0'.toNat)) 0)
  else none

/-- The factors that letters after a number stand for. -/
def sizeFactors : List (String × Nat) :=
  [("", 1), ("b", 512), ("kB", 1000), ("K", 1024), ("k", 1024), ("KiB", 1024), ("MB", 1000000),
    ("M", 1048576), ("m", 1048576), ("MiB", 1048576), ("GB", 1000000000), ("G", 1073741824)]

/-- The number that a text of digits with a factor is. -/
def size? (s : String) : Option Nat :=
  let ds := s.toList.takeWhile Char.isDigit
  match digits? (String.ofList ds), sizeFactors.find? (·.1 == String.ofList (s.toList.drop ds.length)) with
  | some n, some (_, f) => some (n * f)
  | _, _ => none

/-- A number in a column of at least that width. -/
def rightAligned (width : Nat) (s : String) : String :=
  String.ofList (List.replicate (width - s.length) ' ') ++ s

end ServerTrials.Client.Utility
