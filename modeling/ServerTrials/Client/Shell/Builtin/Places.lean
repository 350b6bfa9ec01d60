import ServerTrials.Client.Shell.Builtin.Variables
import ServerTrials.Client.Utility.Printf
import ServerTrials.Client.Utility.Test

/-!
Commands on directories and permissions, and those that tell what names stand for.
-/

namespace ServerTrials.Client.Shell.Builtin

/-! ### Directories -/

/-- Whether a path begins with two slashes and no third one, which are kept. -/
def beginsDouble (path : String) : Bool :=
  match path.toList with
  | '/' :: '/' :: '/' :: _ => false
  | '/' :: '/' :: _ => true
  | _ => false

/-- Makes a directory the current one; `physical` follows what points elsewhere. -/
def enter (physical : Bool) (path : String) : Act Bool := do
  let s ← get
  match s.world.files.find s.cwd path with
  | .ok (place, .directory) => do
    let double := beginsDouble path || (!Files.isAbsolute path && beginsDouble s.cwd)
    let cwd := if physical then place else (if double then "/" else "") ++ Files.absolute s.cwd path
    let exported (s : State) (name value : String) : State :=
      s.putVariable { (s.binding? name).getD { name, value := none } with
        value := some value, exported := true }
    set (exported (exported { s with cwd } "OLDPWD" s.cwd) "PWD" cwd)
    return true
  | _ => return false

/-- Whether a path is looked for in other places than the current directory. -/
def isSearched (path : String) : Bool :=
  match Files.parts path with
  | p :: _ => !Files.isAbsolute path && p ≠ "." && p ≠ ".."
  | [] => false

/-- Changes the current directory. -/
def cd : Builtin := fun c => do
  withOptions [('L', false), ('P', false)] c.args fun given args => do
    let s ← get
    let physical := given.getLast? == some 'P'
    let back := args.head? == some "-"
    let path := if back then (s.value? "OLDPWD").getD ""
      else match args with
        | a :: _ => a
        | [] => (s.value? "HOME").getD ""
    let place := if path = "" then "." else path
    let places := if (path = "" || isSearched path) && !back then (s.value? "CDPATH").getD "" else ""
    let found := (if places = "" then [] else places.splitOn ":").findSome? fun d =>
      let p := if d = "" then place else d ++ "/" ++ place
      match s.world.files.find s.cwd p with
      | .ok (_, .directory) => some (p, d != "")
      | _ => none
    if ← enter physical ((found.map (·.1)).getD place) then
      if back || (found.map (·.2)).getD false then sayLine (← get).cwd
    else fail ("can't cd to " ++ path)

/-- Writes the current directory. -/
def pwd : Builtin := fun c => do
  withOptions [('L', false), ('P', false)] c.args fun given _ => do
    let s ← get
    sayLine (if given.getLast? == some 'P' then Files.locate s.cwd "." else s.cwd)

/-! ### Permissions -/

/-- The number of up to four octal digits that a text is. -/
def octal? (s : String) : Option Nat :=
  if s ≠ "" && s.toList.all Utility.isOctal then
    some ((s.toList.foldl (fun n c => n * 8 + (c.toNat - '0'.toNat)) 0) % 512)
  else none

/-- A mask in four octal digits. -/
def octalText (n : Nat) : String :=
  let ds := Nat.toDigits 8 n
  String.ofList (List.replicate (4 - ds.length) '0' ++ ds)

/-- What a mask leaves to owner, group and others. -/
def symbolic (mask : Nat) : String :=
  let rights (n : Nat) : String := String.ofList
    (([('r', 4), ('w', 2), ('x', 1)].filter fun r => (n / r.2) % 2 = 0).map (·.1))
  "u=" ++ rights (mask / 64) ++ ",g=" ++ rights (mask / 8 % 8) ++ ",o=" ++ rights (mask % 8)

/-- The bits of rights. -/
def rightBits (cs : List Char) : Option Nat :=
  cs.foldlM (fun n c =>
    match c with
    | 'r' => some (n ||| 4)
    | 'w' => some (n ||| 2)
    | 'x' => some (n ||| 1)
    | _ => none) 0

/-- The permissions after a change such as `u+rw`. -/
def changeRights (rights : Nat) (clause : String) : Option Nat :=
  let cs := clause.toList
  let who := cs.takeWhile fun c => "ugoa".toList.contains c
  let whose (c : Char) : Bool := who.isEmpty || who.contains 'a' || who.contains c
  let spread (bits : Nat) : Nat :=
    (if whose 'u' then bits * 64 else 0) + (if whose 'g' then bits * 8 else 0)
      + (if whose 'o' then bits else 0)
  match cs.drop who.length with
  | '+' :: rest => (rightBits rest).map fun b => rights ||| spread b
  | '-' :: rest => (rightBits rest).map fun b => rights &&& (511 - spread b)
  | '=' :: rest => (rightBits rest).map fun b => (rights &&& (511 - spread 7)) ||| spread b
  | _ => none

/-- Writes or sets the permissions that new files do not get. -/
def umask : Builtin := fun c => do
  withOptions [('S', false)] c.args fun given args => do
    let s ← get
    match args with
    | [] => sayLine (if given.contains 'S' then symbolic s.mask else octalText s.mask)
    | a :: _ =>
      if (a.toList.head?.map Char.isDigit).getD false then
        match octal? a with
        | some n => set { s with mask := n }
        | none => fail ("Illegal number: " ++ a)
      else
        match (a.splitOn ",").foldlM changeRights (511 - s.mask) with
        | some rights => set { s with mask := 511 - rights }
        | none => fail ("Illegal mode: " ++ a)

/-- The limits that a machine begins with; none is no limit. -/
def firstLimit (resource : Char) : Option Nat :=
  match resource with
  | 'c' | 'r' => some 0
  | 's' | 'l' => some 8192
  | 'p' => some 128619
  | 'n' => some 20000
  | _ => none

/-- Writes or sets limits, which do not bind here. A limit that was set is not raised again. -/
def ulimit : Builtin := fun c => do
  withOptions ("HSatfdscmlpnvwr".toList.map (·, false)) c.args fun given args => do
    let resource := ((given.filter fun l => !"HSa".toList.contains l).getLast?).getD 'f'
    let s ← get
    let own := (s.limits.find? (·.1 == resource)).map (·.2)
    let current := own.getD (firstLimit resource)
    match args with
    | [] => sayLine ((current.map toString).getD "unlimited")
    | [a] =>
      match a, number? a with
      | "unlimited", _ => pure ()
      | _, none => fail "bad number"
      | _, some n =>
        if (own.bind id).any fun m => m < n then fail "error setting limit (Operation not permitted)"
        else set { s with limits := (resource, some n) :: s.limits.filter (·.1 ≠ resource) }
    | _ => fail "too many arguments"

/-! ### Names -/

/-- The path at which a program is found. -/
def programPath? (s : State) (name : String) : Option String :=
  (((s.value? "PATH").getD "").splitOn ":").findSome? fun d =>
    let path := if d = "" then name else d ++ "/" ++ name
    match s.world.files.find s.cwd path with
    | .ok (_, .file _ true) => some path
    | _ => none

/-- Why a program cannot be run. -/
inductive NoProgram where
  | missing
  | denied
  deriving DecidableEq, Repr

/-- The status that tells why a program cannot be run. -/
def NoProgram.status : NoProgram → Nat
  | .missing => 127
  | .denied => 126

/-- The wording that tells why a program cannot be run. -/
def NoProgram.wording : NoProgram → String
  | .missing => "No such file or directory"
  | .denied => "Permission denied"

/-- The wording by which a shell tells why a program cannot be run. -/
def NoProgram.shellWording : NoProgram → String
  | .missing => "not found"
  | .denied => "Permission denied"

/-- The place of the program that a name or path stands for. A name that only stands for something else among
the programs' directories is one that may not be run. -/
def findProgram (s : State) (name : String) : Except NoProgram String :=
  let kind (path : String) : Except NoProgram String :=
    match s.world.files.find s.cwd path with
    | .ok (_, .file _ true) => .ok path
    | .ok _ => .error .denied
    | .error _ => .error .missing
  if name.toList.contains '/' then kind name
  else
    match programPath? s name with
    | some path => .ok path
    | none =>
      let places := ((s.value? "PATH").getD "").splitOn ":"
      let taken := places.any fun d =>
        kind (if d = "" then name else d ++ "/" ++ name) matches .error .denied
      .error (if taken then .denied else .missing)

/-- What a name stands for, at length or as a command. -/
def described (s : State) (name : String) : Option (String × String) :=
  if Reader.keywords.contains name then some (name ++ " is a shell keyword", name)
  else
    match s.aliases.find? (·.1 == name) with
    | some (_, text) => some (name ++ " is an alias for " ++ text, "alias " ++ name ++ "=" ++ quoted text)
    | none =>
      if name.toList.contains '/' then
        if (s.world.files.find s.cwd name).toOption.isSome then some (name ++ " is " ++ name, name)
        else none
      else if s.functions.any (·.1 == name) then some (name ++ " is a shell function", name)
      else if Reader.specialNames.contains name then some (name ++ " is a special shell builtin", name)
      else if regular.contains name then some (name ++ " is a shell builtin", name)
      else (programPath? s name).map fun p => (name ++ " is " ++ p, p)

/-- Tells at length what names stand for. -/
def typeCommand : Builtin := fun c => do
  for name in c.args do
    match described (← get) name with
    | some (long, _) => sayLine long
    | none => do
      sayLine (name ++ ": not found")
      setStatus 127

/-- Tells what a name stands for. -/
def tellName (long : Bool) (name : String) : Act Unit := do
  match described (← get) name with
  | some (l, short) => sayLine (if long then l else short)
  | none => do
    if long then sayLine (name ++ ": not found")
    setStatus 127

/-- Looks programs up. -/
def hash : Builtin := fun c => do
  withOptions [('r', false)] c.args fun _ args => do
    for name in args do
      let s ← get
      if !isBuiltin name && !(s.functions.any (·.1 == name)) then
        match findProgram s name with
        | .ok _ => pure ()
        | .error e => refuse (name ++ ": " ++ e.shellWording) 1

/-- An alias as it is listed. -/
def aliasLine (a : String × String) : String := a.1 ++ "=" ++ quoted a.2

/-- Gives or tells other texts for names. -/
def aliases : Builtin := fun c => do
  if c.args.isEmpty then
    for a in (← get).aliases do
      sayLine (aliasLine a)
  for arg in c.args do
    let s ← get
    match splitSet arg with
    | (name, some text) => do
      let others := s.aliases.filter fun a => a.1 ≠ name
      set { s with aliases := others ++ [(name, text)] }
    | (name, none) =>
      match s.aliases.find? (·.1 == name) with
      | some a => sayLine (aliasLine a)
      | none => do
        tell ("alias: " ++ name ++ " not found\n")
        setStatus 1

/-- Takes aliases away. -/
def unalias : Builtin := fun c => do
  withOptions [('a', false)] c.args fun given args => do
    if given.contains 'a' then modify fun s => { s with aliases := [] }
    for name in args do
      let s ← get
      if s.aliases.any (·.1 == name) then set { s with aliases := s.aliases.filter (·.1 ≠ name) }
      else do
        tell ("unalias: " ++ name ++ " not found\n")
        setStatus 1

/-! ### Texts -/

/-- Writes its arguments. -/
def echo : Builtin := fun c => say (Utility.echo c.args)

/-- Writes its arguments by a format. -/
def printf : Builtin := fun c => do
  let p := Utility.printf c.args
  setStatus p.status
  for text in p.complaints do
    complain text
  say p.text

/-- Answers a question; in brackets if `bracket` says so. -/
def test (bracket : Bool) : Builtin := fun c => do
  if bracket && c.args.getLast? ≠ some "]" then fail "missing ]"
  else do
    let s ← get
    match Utility.Test.answer ⟨s.world.files, s.cwd⟩ (if bracket then c.args.dropLast else c.args) with
    | .ok b => setStatus (if b then 0 else 1)
    | .error e => fail e

end ServerTrials.Client.Shell.Builtin
