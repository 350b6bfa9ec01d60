import ServerTrials.Client.Files
import ServerTrials.Client.Process
import ServerTrials.Client.Shell.Reader

/-!
What a shell keeps: its variables, functions and options, where its descriptors lead, and the world that
it shares with other processes.

Time is counted in microseconds, and a process has a clock of its own. A pipe keeps what was written into
it with the time of the writing, so what processes write side by side can be put in order afterwards.
-/

namespace ServerTrials.Client.Shell

/-! ### The world -/

/-- Something written into a pipe, when and by which process. -/
structure Chunk where
  time : Nat
  writer : Nat
  text : List Char
  deriving DecidableEq, Repr

/-- A pipe: what was written, the last first; what there is to be read; and when its last writer is
gone. -/
structure Pipe where
  written : List Chunk := []
  unread : List Chunk := []
  closes : Nat := 0
  size : Nat := 0
  deriving DecidableEq, Repr, Inhabited

/-- A file that was opened: where it lies and how far it was read or written. -/
structure OpenFile where
  path : String
  offset : Nat := 0
  append : Bool := false
  deriving DecidableEq, Repr, Inhabited

/-- Where a descriptor leads. -/
inductive Channel where
  | pipe (id : Nat)
  | file (id : Nat)
  | device (d : Device)
  | directory
  deriving DecidableEq, Repr

/-- A process: whose child it is, when it begins, when and how it ends (as soon as that is known), which
signals it does not end by, and where the descriptors lead that it holds open to its end. -/
structure Life where
  parent : Nat
  begins : Nat
  ends : Option (Nat × Status) := none
  deaf : List Nat := []
  channels : List Channel := []
  deriving DecidableEq, Repr, Inhabited

/-- When the last process is gone that holds a channel open. -/
def closing (lives : Array Life) (ch : Channel) : Nat :=
  lives.foldl (fun t (l : Life) =>
    match l.ends with
    | some (time, _) => if l.channels.contains ch then max t time else t
    | none => t) 0

/-- A signal on its way. -/
structure Sent where
  sender : Nat
  target : Nat
  signal : Nat
  time : Nat
  deriving DecidableEq, Repr

/-- What processes share. -/
structure World where
  files : Files
  pipes : Array Pipe
  opened : Array OpenFile := #[]
  lives : Array Life
  signals : List Sent := []
  turns : Nat := 0
  namesMade : Nat := 0

/-- The number of the first process. -/
def firstProcess : Nat := 4001

namespace World

/-- The life of the process with that number. -/
def life? (w : World) (process : Nat) : Option Life :=
  if process < firstProcess then none else w.lives[process - firstProcess]?

/-- The world after a change in the life of a process. -/
def changeLife (w : World) (process : Nat) (f : Life → Life) : World :=
  if process < firstProcess then w else { w with lives := w.lives.modify (process - firstProcess) f }

/-- The processes that there are not if a process ends at a time: itself, and those that it or another one
of them would have begun after it. -/
def undone (w : World) (process time : Nat) : List Nat :=
  ((List.range w.lives.size).zip w.lives.toList).foldl (fun dead (i, life) =>
    if dead.contains life.parent && time < life.begins then dead ++ [firstProcess + i] else dead) [process]

/-- The world in which a process was ended by a signal at a time. -/
def cutShort (w : World) (process signal time : Nat) : World :=
  let dead := w.undone process time
  let stays (writer at_ : Nat) : Bool := !(dead.contains writer && time < at_)
  let keep (cs : List Chunk) : List Chunk := cs.filter fun c => stays c.writer c.time
  let w := { w with
    pipes := w.pipes.map fun p => { p with written := keep p.written, unread := keep p.unread }
    signals := w.signals.filter fun s => stays s.sender s.time }
  let w := dead.foldl (fun (w : World) d => w.changeLife d fun (l : Life) => { l with channels := [] }) w
  w.changeLife process fun (l : Life) => { l with ends := some (time, .killed signal) }

end World

/-- The pipe that is the output of the client. -/
def outerOutput : Nat := 0

/-- The pipe that is the error output of the client. -/
def outerErrors : Nat := 1

/-! ### The shell -/

/-- A variable; without a value it only has its marks. -/
structure Variable where
  name : String
  value : Option String
  exported : Bool := false
  fixed : Bool := false
  deriving DecidableEq, Repr

/-- A job of a shell: its processes, the last one of which gives its status, whether it was waited for, and
whether its end was told in a list. -/
structure Job where
  processes : List Nat
  waited : Bool := false
  listed : Bool := false
  deriving DecidableEq, Repr

/-- What a shell does after a command: go on; leave loops or begin their next turn, for that many loops;
go back from a function; end, or end because of a mistake; or nothing, because it never gets there. -/
inductive Flow where
  | normal
  | leave (loops : Nat)
  | again (loops : Nat)
  | back
  | ended (status : Status)
  | failed
  | hung
  deriving DecidableEq, Repr

/-- A shell. -/
structure State where
  /-- What it calls itself. -/
  title : String
  /-- The command that speaks in complaints. -/
  speaker : Option String := none
  args : List String := []
  vars : List Variable := []
  functions : List (String × Command) := []
  aliases : List (String × String) := []
  /-- What is done about signals; number zero is the end of the shell. -/
  traps : List (Nat × String) := []
  /-- Signals that have come and were not acted on. -/
  raised : List Nat := []
  /-- The letters of the options that are set, the latest first. -/
  options : List Char := []
  cwd : String := "/"
  fds : List (Nat × Channel) := []
  /-- The process that its parameter `$` names. -/
  mainProcess : Nat
  process : Nat
  lastJob : Option Nat := none
  jobs : List Job := []
  status : Nat := 0
  /-- The status that the shell will leave, once it has begun to end. -/
  saved : Option Nat := none
  /-- The status of the last commands whose output was taken. -/
  substituted : Option Nat := none
  line : Nat := 1
  now : Nat := 0
  flow : Flow := .normal
  loops : Nat := 0
  calls : Nat := 0
  /-- What local variables were before, a list for each call of a function. -/
  locals : List (List (String × Option Variable)) := []
  /-- The argument at which options are looked for next, counted from one, and how many characters of the
  one before it were taken. -/
  optionIndex : Nat := 1
  optionPlace : Option Nat := none
  /-- The permissions that new files do not get. -/
  mask : Nat := 18
  /-- The limits that were set. -/
  limits : List (Char × Option Nat) := []
  /-- Whether something could not be written. -/
  unwritten : Bool := false
  world : World

/-- Acts on a shell. -/
abbrev Act := StateM State

/-- How many characters a pipe holds whose reader does not take them. -/
def pipeLimit : Nat := 300000

/-! ### Time and ends -/

/-- Whether the shell goes on with the next command. -/
def running : Act Bool := do return (← get).flow == .normal

/-- Ends the shell. -/
def endWith (status : Status) : Act Unit := modify fun s => { s with flow := .ended status }

/-- Sets the status of the last command. -/
def setStatus (n : Nat) : Act Unit := modify fun s => { s with status := n }

/-- Moves the clock on to a time. -/
def waitUntil (time : Nat) : Act Unit := modify fun s => { s with now := max s.now time }

/-- The time that a process takes to begin another one. -/
def forkTime : Nat := 100

/-- The time that a process takes before it does anything. -/
def wakeTime : Nat := 200

/-- The time that a process takes to become a program. -/
def loadTime : Nat := 500

/-- The time at which something that never ends is said to end. -/
def never : Nat := 1000000000000000

/-! ### Options -/

/-- Whether an option is set. -/
def State.has (s : State) (option : Char) : Bool := s.options.contains option

/-! ### Variables -/

/-- The variable of that name. -/
def State.binding? (s : State) (name : String) : Option Variable := s.vars.find? (·.name == name)

/-- The value of the variable of that name, if it has one. -/
def State.value? (s : State) (name : String) : Option String := (s.binding? name).bind (·.value)

/-- Puts a variable in the place of the one of its name. -/
def State.putVariable (s : State) (v : Variable) : State :=
  if s.vars.any (·.name == v.name) then
    { s with vars := s.vars.map fun w => if w.name = v.name then v else w }
  else { s with vars := s.vars ++ [v] }

/-- Takes a variable away. -/
def State.dropVariable (s : State) (name : String) : State :=
  { s with vars := s.vars.filter (·.name ≠ name) }

/-- Puts back what there was of a variable. -/
def State.restoreVariable (s : State) (name : String) (old : Option Variable) : State :=
  match old with
  | some v => s.putVariable v
  | none => s.dropVariable name

/-- The characters at which texts are cut. -/
def State.separators (s : State) : String := (s.value? "IFS").getD " \t\n"

/-! ### Outputs -/

/-- Writes into an open file. -/
def World.writeFile (w : World) (id : Nat) (text : List Char) : World :=
  let o := w.opened[id]?.getD default
  match w.files.node? o.path with
  | some (.file content runs) =>
    let cs := content.toList
    let offset := if o.append then cs.length else o.offset
    let before := cs.take offset ++ List.replicate (offset - cs.length) '\x00'
    let after := cs.drop (offset + text.length)
    { w with
      files := w.files.put o.path (.file (String.ofList (before ++ text ++ after)) runs)
      opened := w.opened.setIfInBounds id { o with offset := offset + text.length } }
  | _ => w

/-- Writes into a pipe. -/
def World.writePipe (w : World) (id : Nat) (c : Chunk) : World :=
  { w with pipes := w.pipes.modify id fun p =>
      { p with written := c :: p.written, size := p.size + c.text.length } }

/-- Writes to where a channel leads; answers whether that was possible. A process that fills a pipe
nobody empties is ended. -/
def writeChannel (ch : Channel) (text : String) : Act Bool := do
  let s ← get
  match ch with
  | .pipe id => do
    set { s with world := s.world.writePipe id ⟨s.now, s.process, text.toList⟩ }
    if outerErrors < id && pipeLimit < (s.world.pipes[id]?.getD default).size then endWith (.killed 13)
    return true
  | .file id => do
    set { s with world := s.world.writeFile id text.toList }
    return true
  | .device .full | .directory => return false
  | .device _ => return true

/-- Where a descriptor leads. -/
def State.channel? (s : State) (descriptor : Nat) : Option Channel :=
  (s.fds.find? (·.1 == descriptor)).map (·.2)

/-- Writes to a descriptor; answers whether that was possible. -/
def write (descriptor : Nat) (text : String) : Act Bool := do
  if text = "" then return true
  match (← get).channel? descriptor with
  | some ch => writeChannel ch text
  | none => return false

/-- Writes to the error output. -/
def tell (text : String) : Act Unit := do discard (write 2 text)

/-- Tells a complaint, under the title of the script, the line and the command that speaks. -/
def complain (text : String) : Act Unit := do
  let s ← get
  let speaker := match s.speaker with
    | some name => name ++ ": "
    | none => ""
  tell (s.title ++ ": " ++ toString s.line ++ ": " ++ speaker ++ text ++ "\n")

/-- Tells a complaint; the shell has failed. -/
def fail (text : String) (status : Nat := 2) : Act Unit := do
  complain text
  modify fun s => { s with status, flow := .failed }

/-- Tells a complaint and sets a status. -/
def refuse (text : String) (status : Nat := 2) : Act Unit := do
  complain text
  setStatus status

/-- Starts looking for options anew if their index is what is set. -/
def State.startOptions (s : State) (name value : String) : State :=
  if name = "OPTIND" then { s with optionIndex := max 1 (value.toNat?.getD 1), optionPlace := none } else s

/-- Sets a variable; a fixed one cannot be set. -/
def assign (name value : String) : Act Unit := do
  let s ← get
  match s.binding? name with
  | some v =>
    if v.fixed then fail (name ++ ": is read only")
    else set ((s.putVariable { v with value := some value, exported := v.exported || s.has 'a' }).startOptions
      name value)
  | none => set ((s.putVariable { name, value := some value, exported := s.has 'a' }).startOptions name value)

/-! ### Inputs -/

/-- What is left to read in a channel, with the time at which each piece is there; the last time is that
of the end. -/
def World.contents (w : World) (ch : Channel) : List Chunk × Nat :=
  match ch with
  | .pipe id =>
    let p := w.pipes[id]?.getD default
    (p.unread, p.closes)
  | .file id =>
    let o := w.opened[id]?.getD default
    match w.files.node? o.path with
    | some (.file content _) => ([⟨0, 0, content.toList.drop o.offset⟩], 0)
    | _ => ([], 0)
  | .device .zero => ([⟨0, 0, List.replicate 262144 '\x00'⟩], never)
  | .device _ | .directory => ([], 0)

/-- Drops characters from the front of pieces. -/
def dropChunks (n : Nat) : List Chunk → List Chunk
  | [] => []
  | c :: cs =>
    if c.text.length ≤ n then dropChunks (n - c.text.length) cs
    else { c with text := c.text.drop n } :: cs

/-- Takes characters from the front of a channel. -/
def World.consume (w : World) (ch : Channel) (n : Nat) : World :=
  match ch with
  | .pipe id => { w with pipes := w.pipes.modify id fun p => { p with unread := dropChunks n p.unread } }
  | .file id => { w with opened := w.opened.modify id fun o => { o with offset := o.offset + n } }
  | .device _ | .directory => w

/-- Takes all that is left in a descriptor, piece by piece, and waits for its end. -/
def readChunks (descriptor : Nat) : Act (Option (List Chunk)) := do
  let s ← get
  match s.channel? descriptor with
  | none => return none
  | some ch => do
    let (chunks, closes) := s.world.contents ch
    let size := (chunks.map (·.text.length)).foldl (· + ·) 0
    set { s with world := s.world.consume ch size, now := max s.now closes }
    return some chunks

/-- Takes all that is left in a descriptor. -/
def readAll (descriptor : Nat) : Act (Option String) := do
  return (← readChunks descriptor).map fun cs => String.ofList (cs.flatMap (·.text))

/-- The pieces up to the first line end, with the time of the last piece; none if there is no line end. -/
def firstLine (acc : List Char) : List Chunk → Option (List Char × Nat)
  | [] => none
  | c :: cs =>
    if c.text.contains '\n' then some (acc ++ c.text.takeWhile (· != '\n'), c.time)
    else firstLine (acc ++ c.text) cs

/-- Takes a line from a descriptor; answers it and whether a line end was there. -/
def readLine (descriptor : Nat) : Act (Option (String × Bool)) := do
  let s ← get
  match s.channel? descriptor with
  | none => return none
  | some ch => do
    let (chunks, closes) := s.world.contents ch
    match firstLine [] chunks with
    | some (line, time) => do
      set { s with world := s.world.consume ch (line.length + 1), now := max s.now time }
      return some (String.ofList line, true)
    | none => do
      let all := chunks.flatMap (·.text)
      set { s with world := s.world.consume ch all.length, now := max s.now closes }
      return some (String.ofList all, false)

/-! ### Pipes and processes -/

/-- Makes a new pipe. -/
def newPipe : Act Nat := do
  let s ← get
  let id := s.world.pipes.size
  set { s with world := { s.world with pipes := s.world.pipes.push {} } }
  return id

/-- What was written into a pipe, in the order of time. -/
def Pipe.ordered (p : Pipe) : List Chunk := p.written.reverse.mergeSort fun a b => a.time ≤ b.time

/-- Turns a pipe round: what was written can be read, and its end comes at the given time. -/
def turnPipe (id closes : Nat) : Act Unit := modify fun s =>
  { s with world := { s.world with pipes := s.world.pipes.modify id fun p =>
      { p with written := [], unread := p.ordered, closes } } }

/-- All that was written into a pipe. -/
def Pipe.text (p : Pipe) : List Char := p.ordered.flatMap (·.text)

/-- The number of a new process. -/
def newProcess : Act Nat := do
  let s ← get
  let life : Life := { parent := s.process, begins := s.now + forkTime }
  set { s with now := s.now + forkTime, world := { s.world with lives := s.world.lives.push life } }
  return firstProcess + s.world.lives.size

/-- Lets a descriptor lead somewhere. -/
def State.connect (s : State) (descriptor : Nat) (ch : Channel) : State :=
  { s with fds := (descriptor, ch) :: s.fds.filter (·.1 ≠ descriptor) }

/-- Closes a descriptor. -/
def State.disconnect (s : State) (descriptor : Nat) : State :=
  { s with fds := s.fds.filter (·.1 ≠ descriptor) }

/-! ### Commands inside commands -/

/-- The part that a command plays: whether somebody looks at its status, and whether its process ends with
it. -/
structure Role where
  tested : Bool := false
  last : Bool := false

/-- How to run what is inside a command: commands, and programs that take the place of the shell. -/
structure Means where
  run : Role → Command → Act Unit
  launch : List String → Act Unit

end ServerTrials.Client.Shell
