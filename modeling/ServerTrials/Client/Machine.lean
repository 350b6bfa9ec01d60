import ServerTrials.Client.Shell.Run

/-!
The machine that runs clients: its own files and programs, and the scripts that lie on it.

A program named without a slash is looked for among the directories of programs. With a slash it is a path:
a program or a script runs, a directory or any other file may not be run, and what is not there is not
found.
-/

namespace ServerTrials.Client

/-- A machine: the scripts on it by their paths, and the variables that clients get besides the usual
ones. -/
structure Machine where
  scripts : List (String × String)
  given : List (String × String) := []
  deriving DecidableEq, Repr

namespace Machine

/-! ### Why a client does not run -/

/-- Why a client does not run. -/
inductive Refusal where
  | missing
  | tooMuch
  | denied
  | notDirectory
  | nameTooLong
  | holdsNul
  deriving DecidableEq, Repr

/-- The wording of a refusal. -/
def Refusal.wording : Refusal → String
  | .missing => "No such file or directory (os error 2)"
  | .tooMuch => "Argument list too long (os error 7)"
  | .denied => "Permission denied (os error 13)"
  | .notDirectory => "Not a directory (os error 20)"
  | .nameTooLong => "File name too long (os error 36)"
  | .holdsNul => "nul byte found in provided data"

/-- The longest argument in bytes. -/
def longestArgument : Nat := 131071

/-- The longest name of a file in bytes. -/
def longestName : Nat := 255

/-- The longest path in bytes. -/
def longestPath : Nat := 4095

/-! ### Running -/

/-- The variables of every client. -/
def usualVariables : List (String × String) :=
  [("HOME", "/root"), ("PATH", "/usr/local/sbin:/usr/local/bin:/usr/sbin:/usr/bin:/sbin:/bin")]

/-- The files of a machine. -/
def files (m : Machine) : Files :=
  m.scripts.foldl (fun f s =>
    f.put (Files.locate "/" s.1) (.file ("#!/bin/sh\n" ++ byteTextOf s.2) true)) Files.standard

/-- The process that is to become a client. -/
def start (m : Machine) : Shell.State where
  title := ""
  vars := (usualVariables ++ m.given).map fun v =>
    { name := byteTextOf v.1, value := some (byteTextOf v.2), exported := true }
  fds := [(0, .device .null), (1, .pipe Shell.outerOutput), (2, .pipe Shell.outerErrors)]
  mainProcess := Shell.firstProcess
  process := Shell.firstProcess
  world := { files := m.files, pipes := #[{}, {}], lives := #[{ parent := 1, begins := 0 }] }

/-- The path of the program that a name or path stands for, or why it does not run. -/
def find (m : Machine) (client : String) : Except Refusal String :=
  let s := m.start
  let byPath (path : String) : Except Refusal String :=
    if longestPath < path.length || (Files.parts path).any (longestName < ·.length) then .error .nameTooLong
    else
      match s.world.files.find s.cwd path with
      | .ok (_, .file _ true) => .ok path
      | .ok _ => .error .denied
      | .error .notDirectory => .error .notDirectory
      | .error _ => .error .missing
  if client = "" then .error .missing
  else if client.toList.contains '/' then byPath client
  else if longestName < client.length then .error .nameTooLong
  else
    match Shell.Builtin.findProgram s client with
    | .ok path => .ok path
    | .error .denied => .error .denied
    | .error .missing => .error .missing

/-- The process that a program becomes, with everything it leaves behind. -/
def processOf (s : Shell.State) : Process :=
  let output (id : Nat) : List UInt8 :=
    bytesOf (String.ofList (s.world.pipes[id]?.getD default).text)
  let closes (id : Nat) : Nat := Shell.closing s.world.lives (.pipe id)
  { stdout := output Shell.outerOutput
    stderr := output Shell.outerErrors
    status := s.left
    elapsed := max s.ends.1 (max (closes Shell.outerOutput) (closes Shell.outerErrors)) / 1000 }

/-- Runs a program or says why it does not run. -/
def run (m : Machine) (client : String) (args : List String) : Except Refusal Process := do
  let words := (client :: args).map byteTextOf
  if words.any (·.toList.contains '\x00') then throw .holdsNul
  let path ← m.find (byteTextOf client)
  if words.any (longestArgument < ·.length) then throw .tooMuch
  let act := Shell.runAt (Shell.means Shell.depth) path (byteTextOf client) (words.drop 1)
  return processOf (act.run m.start).2

/-- Runs a client against a host and port. -/
def spawn (m : Machine) (client host : String) (port : UInt16) : Except Fleet.ProbeError Process :=
  match m.run client [host, toString port.toNat] with
  | .ok p => .ok p
  | .error reason => .error (.spawn client reason.wording)

/-- Probes a host and port with a client that has all the time it needs. -/
def probe (m : Machine) (client host : String) (port : UInt16) : Except Fleet.ProbeError String := do
  (← m.spawn client host port).judge

end Machine
end ServerTrials.Client
