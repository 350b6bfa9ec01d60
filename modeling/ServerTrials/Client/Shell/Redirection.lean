import ServerTrials.Client.Shell.Expansion

/-!
Redirections: where a descriptor leads while a command runs.

The words of all redirections are filled in before the first file is opened. A file that cannot be opened
stops the command; what was redirected before it leads back afterwards.
-/

namespace ServerTrials.Client.Shell

/-- Where a redirection leads, with its words filled in. -/
inductive Target where
  | path (opening : Opening) (path : String)
  | descriptor (n : Nat)
  | nowhere
  | text (body : String)
  deriving DecidableEq, Repr

/-- The descriptor that a redirection changes. -/
def Redirect.descriptor : Redirect → Nat
  | .file d _ _ => d
  | .duplicate d _ => d
  | .here d _ => d

/-- The target of a redirection. -/
def Redirect.target (m : Means) : Redirect → Act Target
  | .file _ opening path => do return .path opening (← wholeText m path)
  | .duplicate _ source => do
    match (← wholeText m source).toList with
    | ['-'] => return .nowhere
    | [c] => do
      if !c.isDigit then fail "Syntax error: Bad fd number"
      return .descriptor (c.toNat - '0'.toNat)
    | _ => do
      if (← running) then fail "Syntax error: Bad fd number"
      return .nowhere
  | .here _ body => do return .text (textOfPieces (← wordPieces m Reader.depth false body))

/-- The descriptor that a path names. -/
def descriptorAt? (path : String) : Option Nat :=
  match path with
  | "/dev/stdin" => some 0
  | "/dev/stdout" => some 1
  | "/dev/stderr" => some 2
  | _ => ["/dev/fd/", "/proc/self/fd/"].findSome? fun front =>
    if front.toList.isPrefixOf path.toList then
      (String.ofList (path.toList.drop front.length)).toNat?
    else none

/-- A file that was opened, at its beginning. -/
def openFile (path : String) (append : Bool) : Act Channel := do
  let s ← get
  set { s with world := { s.world with opened := s.world.opened.push { path, append } } }
  return .file s.world.opened.size

/-- Opens a path for reading. -/
def openToRead (path : String) : Act (Except String Channel) := do
  let s ← get
  match s.world.files.find s.cwd path with
  | .ok (place, .file ..) => return .ok (← openFile place false)
  | .ok (_, .directory) => return .ok .directory
  | .ok (_, .device d) => return .ok (.device d)
  | .error .missing | .error .notDirectory => return .error "No such file"
  | .error e => return .error e.wording

/-- Opens a path for writing; a file that is not there is made, and one that is there may be emptied. -/
def openToWrite (opening : Opening) (path : String) : Act (Except String Channel) := do
  let s ← get
  let append := opening == .append
  let empties := opening matches .write _
  match s.world.files.target s.cwd path with
  | .ok (_, some (.device d)) => return .ok (.device d)
  | .ok (_, some .directory) => return .error Files.Obstacle.isDirectory.wording
  | .ok (place, some (.file _ runs)) => do
    if opening == .write false && s.has 'C' then return .error Files.Obstacle.exists.wording
    if empties then
      set { s with world := { s.world with files := s.world.files.put place (.file "" runs) } }
    return .ok (← openFile place append)
  | .ok (place, none) => do
    set { s with world := { s.world with files := s.world.files.put place (.file "" false) } }
    return .ok (← openFile place append)
  | .error .missing | .error .notDirectory => return .error "Directory nonexistent"
  | .error e => return .error e.wording

/-- Opens a path. -/
def openPath (opening : Opening) (path : String) : Act (Except String Channel) := do
  match descriptorAt? path with
  | some n =>
    match (← get).channel? n with
    | some ch => return .ok ch
    | none => return .error "No such file"
  | none => if opening == .read then openToRead path else openToWrite opening path

/-- A pipe with a text in it. -/
def pipeOf (text : String) : Act Channel := do
  let id ← newPipe
  modify fun s => { s with world := { s.world with pipes := s.world.pipes.modify id fun p =>
    { p with unread := [⟨s.now, s.process, text.toList⟩], closes := s.now } } }
  return .pipe id

/-- Lets a descriptor lead to a target; answers whether it does. -/
def lead (descriptor : Nat) : Target → Act Bool
  | .nowhere => do
    modify (·.disconnect descriptor)
    return true
  | .descriptor n => do
    match (← get).channel? n with
    | some ch => do
      modify (·.connect descriptor ch)
      return true
    | none => do
      refuse (toString n ++ ": Bad file descriptor")
      return false
  | .text body => do
    let ch ← pipeOf body
    modify (·.connect descriptor ch)
    return true
  | .path opening path => do
    match ← openPath opening path with
    | .ok ch => do
      modify (·.connect descriptor ch)
      return true
    | .error reason => do
      let verb := if opening == .read then "open" else "create"
      refuse ("cannot " ++ verb ++ " " ++ path ++ ": " ++ reason)
      return false

/-- Carries out redirections one after the other; answers whether all lead somewhere. -/
def leadAll : List (Nat × Target) → Act Bool
  | [] => return true
  | (descriptor, target) :: rest => do
    if (← lead descriptor target) then leadAll rest else return false

/-- The redirections with their words filled in. -/
def targets (m : Means) (rs : List Redirect) : Act (List (Nat × Target)) :=
  rs.mapM fun r => do return (r.descriptor, ← r.target m)

/-- Lets descriptors lead back to where they led in an earlier state. -/
def leadBack (descriptors : List Nat) (before : State) : Act Unit :=
  modify fun s => descriptors.foldl (fun s d =>
    match before.channel? d with
    | some ch => s.connect d ch
    | none => s.disconnect d) s

end ServerTrials.Client.Shell
