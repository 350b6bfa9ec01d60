import ServerTrials.Client.Shell.Builtin.Control
import ServerTrials.Client.Shell.Builtin.Places
import ServerTrials.Client.Utility.Sleep
import ServerTrials.Client.Utility.Table

/-!
Programs in the place of a shell: running one in a process.

Most programs only work on what they are given. Those here run other programs, or are shells themselves.
-/

namespace ServerTrials.Client.Shell

open Utility (Request Written Done)

/-! ### Programs at work -/

/-- What a shell gives to a program. -/
def State.request (s : State) (name : String) (args : List String) : Request where
  name := name
  args := args
  env := s.vars.filterMap fun v => if v.exported then v.value.map (v.name, ·) else none
  cwd := s.cwd
  mask := s.mask
  writes := (s.channel? 1).isSome
  input := match s.channel? 0 with
    | none => .closed
    | some .directory => .directory
    | some ch => .pieces ((s.world.contents ch).1.map fun c => (c.time, c.text))

/-- Takes what a program took of its input: all of it, or the pieces with the first characters. Of a file
it takes no more than those. -/
def takeFor (done : Done) : Act Unit := do
  match done.took, done.takes with
  | false, _ => pure ()
  | true, none => discard (readChunks 0)
  | true, some n => do
    let s ← get
    match s.channel? 0 with
    | some (.pipe id) => do
      let chunks := (s.world.contents (.pipe id)).1
      let after := dropChunks (n - 1) chunks
      let time := ((after.head?.or chunks.getLast?).map (·.time)).getD s.now
      let size := ((chunks.filter (·.time ≤ time)).map (·.text.length)).foldl (· + ·) 0
      set { s with world := s.world.consume (.pipe id) size, now := max s.now time }
    | some ch => set { s with world := s.world.consume ch n }
    | none => pure ()

/-- Has a command done in a new process, with a text as its input. -/
def runOrdered (m : Means) (command text : String) : Act Unit := do
  let child ← inSubshell m (fun s => s) do
    let input ← newPipe
    modify fun s => { s with
      world := s.world.writePipe input { time := s.now, writer := s.process, text := text.toList } }
    turnPipe input 0
    modify (·.connect 0 (.pipe input))
    m.launch ["/bin/sh", "-c", command]
  waitUntil child.ends.1

/-- Writes what a program wrote; what cannot be written is complained about at its end. -/
def writeFor (m : Means) (name : String) (done : Done) : Act Bool := do
  let mut fine := true
  for w in done.written.reverse do
    if (← running) then
      w.time.forM waitUntil
      if w.command.isSome then runOrdered m (w.command.getD "") w.text
      else if !(← write w.descriptor w.text) && w.descriptor == 1 && fine then
        fine := false
  if !fine then
    let reason := if ((← get).channel? 1).isSome then "No space left on device" else "Bad file descriptor"
    discard (write 2 (name ++ ": write error: " ++ reason ++ "\n"))
  return fine

/-- A program that never ends is ended when it writes into a pipe that nobody empties. -/
def goOnForEver : Act Unit := do
  let s ← get
  match s.channel? 1 with
  | some (.pipe id) =>
    if outerErrors < id && pipeLimit < (s.world.pipes[id]?.getD default).size then endWith (.killed 13)
    else set { s with flow := .hung }
  | _ => set { s with flow := .hung }

/-- A program works in the process of the shell. -/
def perform (m : Means) (program : Utility.Program) (name : String) (args : List String) : Act Unit := do
  let s ← get
  let start : Done := { files := s.world.files, namesMade := s.world.namesMade }
  let (_, done) := (program.run (s.request name args)).run.run start
  set { s with world := { s.world with files := done.files, namesMade := done.namesMade } }
  if done.written.all (·.time.isNone) then takeFor done
  let fine ← writeFor m name done
  if !(done.written.all (·.time.isNone)) then takeFor done
  match done.slept with
  | some n => modify fun s => { s with now := s.now + n }
  | none => if (← running) then goOnForEver
  if (← running) then endWith (.exited (if fine then done.status else max done.unwritten done.status))

/-! ### Shells -/

/-- What a shell is to run. -/
inductive Task where
  | text (s : String)
  | file (path : String)
  | input
  deriving DecidableEq, Repr

/-- How a shell is called. -/
structure Calling where
  options : List Char := []
  command : Bool := false
  fromInput : Bool := false
  operands : List String := []

/-- The options of a shell's call, up to the first operand. -/
def readCalling (c : Calling) : List String → Except String Calling
  | [] => .ok c
  | a :: rest =>
    match a.toList with
    | ['-'] | ['-', '-'] => .ok { c with operands := rest }
    | sign :: l :: ls =>
      if sign == '-' || sign == '+' then
        let letters := l :: ls
        let known := Builtin.optionNames.filterMap (·.2)
        match letters.find? fun x => !(known.contains x || x == 'c' || x == 'o' || x == 'l') with
        | some x => .error ("Illegal option -" ++ String.ofList [x])
        | none =>
          let plain := letters.filter fun x => known.contains x && x ≠ 's'
          let options := if sign == '-' then plain ++ c.options else c.options.filter fun x => !plain.contains x
          let c := { c with
            options, command := c.command || letters.contains 'c'
            fromInput := c.fromInput || letters.contains 's' }
          if letters.contains 'o' then
            match rest with
            | name :: rest =>
              match Builtin.optionNames.find? (·.1 == name) with
              | some (_, some x) => readCalling { c with options := x :: c.options } rest
              | some (_, none) => readCalling c rest
              | none => .error ("Illegal option -o " ++ name)
            | [] => .ok c
          else readCalling c rest
      else .ok { c with operands := a :: rest }
    | _ => .ok { c with operands := a :: rest }

/-- The variables that every shell has, in a current directory. -/
def ownVariables (s : State) (cwd : String) : List Variable :=
  let parent := ((s.world.life? s.process).map (·.parent)).getD 1
  let own := [("IFS", " \t\n"), ("OPTIND", "1"),
    ("PATH", "/usr/local/sbin:/usr/local/bin:/usr/sbin:/usr/bin:/sbin:/bin"), ("PPID", toString parent),
    ("PS1", "# "), ("PS2", "> "), ("PS4", "+ ")]
  own.map (fun v => { name := v.1, value := some v.2 }) ++ [{ name := "PWD", value := some cwd, exported := true }]

/-- The path by which a new shell knows the current directory: the one that was handed on if it still leads
there. -/
def State.handedPlace (s : State) : String :=
  let place := Files.locate s.cwd "."
  match s.vars.find? fun v => v.name == "PWD" && v.exported with
  | some { value := some path, .. } =>
    if Files.isAbsolute path && Files.locate s.cwd path == place then path else place
  | _ => place

/-- A new shell in the process of an old one. It knows the variables that were handed on, and ignores the
signals that were ignored. -/
def State.renew (s : State) (title : String) (args : List String) (options : List Char) : State :=
  let cwd := s.handedPlace
  let handed := s.vars.filter fun v => v.exported && ["IFS", "OPTIND", "PPID", "PWD"].all (· != v.name)
  let own := (ownVariables s cwd).filter fun v => !handed.any (·.name == v.name)
  { title, args, options
    vars := handed.map ({ · with fixed := false }) ++ own
    traps := s.traps.filter fun t => t.1 ≠ 0 && t.2 == ""
    cwd, fds := s.fds, mainProcess := s.process, process := s.process, now := s.now, mask := s.mask
    limits := s.limits
    world := s.world }

/-- Ends a shell that cannot begin. -/
def cannotBegin (title reason : String) : Act Unit := do
  tell (title ++ ": 0: " ++ reason ++ "\n")
  endWith (.exited 2)

/-- Runs a script in a new shell in this process; `last` says whether the process may end with the last
command. -/
def runScript (m : Means) (last : Bool) (title : String) (args : List String) (options : List Char)
    (text : String) : Act Unit := do
  modify (·.renew title args options)
  discard (runText m { last } text)
  atEnd m

/-- A shell in this process. -/
def runShell (m : Means) (name : String) (args : List String) : Act Unit := do
  let isBash := Files.lastPart name == "bash"
  match readCalling {} args with
  | .error e => cannotBegin name e
  | .ok c =>
    match c.command, c.fromInput, c.operands with
    | true, _, [] =>
      if isBash then
        tell (name ++ ": -c: option requires an argument\n")
        endWith (.exited 2)
      else cannotBegin name "-c requires an argument"
    | true, _, text :: rest => runScript m true (rest.headD name) (rest.drop 1) c.options text
    | false, false, path :: rest => do
      match ← openPath .read path with
      | .ok ch => do
        let text := ((← get).world.contents ch).1.flatMap (·.text)
        runScript m false path rest c.options (String.ofList text)
      | .error reason =>
        if isBash then
          tell (name ++ ": " ++ path ++ ": No such file or directory\n")
          endWith (.exited 127)
        else cannotBegin name ("cannot open " ++ path ++ ": " ++ reason)
    | false, _, operands => do
      let text := (← readAll 0).getD ""
      runScript m false name operands ('s' :: c.options) text

/-! ### Scripts -/

/-- The words that begin a script whose first line says what runs it, or a shell. -/
def interpreter (content : String) : List String :=
  match content.toList with
  | '#' :: '!' :: cs =>
    let line := (cs.takeWhile (· != '\n')).dropWhile (· == ' ')
    let program := line.takeWhile (· != ' ')
    let argument := ((line.drop program.length).dropWhile (· == ' ')).reverse.dropWhile (· == ' ')
    String.ofList program :: (if argument.isEmpty then [] else [String.ofList argument.reverse])
  | _ => ["/bin/sh"]

end ServerTrials.Client.Shell
