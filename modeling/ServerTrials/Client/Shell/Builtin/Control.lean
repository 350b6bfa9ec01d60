import ServerTrials.Client.Shell.Builtin.Basic

/-!
Commands that steer the shell: leaving loops, functions and the shell itself, running texts and files, and
what is to be done about signals.
-/

namespace ServerTrials.Client.Shell.Builtin

/-- Leaves loops, or begins their next turn. Outside a loop nothing happens. -/
def leaveLoops (flow : Nat → Flow) : Builtin := fun c => do
  withNumber (c.args.headD "1") fun n => do
    if n = 0 then fail ("Illegal number: " ++ c.args.headD "1")
    else modify fun s => if s.loops = 0 then s else { s with flow := flow (min n s.loops) }

/-- Goes back from a function, or ends the script. -/
def goBack : Builtin := fun c => do
  match c.args with
  | [] => modify fun s => { s with status := c.before, flow := .back }
  | a :: _ => withNumber a fun n => modify fun s => { s with status := n, flow := .back }

/-- Ends the shell. -/
def exit : Builtin := fun c => do
  match c.args with
  | [] => modify fun s => { s with flow := .ended (.exited (s.saved.getD c.before)) }
  | a :: _ => withNumber a fun n => endWith (.exited n)

/-- Runs its arguments as a text. -/
def eval : Builtin := fun c => do
  discard (runText c.means { tested := c.role.tested } (" ".intercalate c.args))

/-- Replaces the shell by a program. -/
def exec : Builtin := fun c => do
  if !c.args.isEmpty then
    c.means.launch c.args

/-- The path of a file to run inside the shell: names without a slash are looked for among the programs'
directories. -/
def scriptPath? (s : State) (name : String) : Option String :=
  if name.toList.contains '/' then some name
  else (((s.value? "PATH").getD "").splitOn ":").findSome? fun d =>
    let path := if d = "" then name else d ++ "/" ++ name
    match s.world.files.find s.cwd path with
    | .ok (_, .file ..) => some path
    | _ => none

/-- Runs a file inside the shell. -/
def source : Builtin := fun c => do
  match c.args with
  | [] => pure ()
  | name :: _ =>
    match scriptPath? (← get) name with
    | none => fail (name ++ ": not found")
    | some path =>
      match ← openPath .read path with
      | .error reason => fail ("cannot open " ++ path ++ ": " ++ reason)
      | .ok ch => do
        let s ← get
        set { s with speaker := some path }
        let text := (s.world.contents ch).1.flatMap (·.text)
        discard (runText c.means {} (String.ofList text))
        modify fun t => { t with
          speaker := s.speaker, flow := if t.flow == .back then .normal else t.flow }

/-- Writes the times that the shell and its processes have used, which is none. -/
def times : Builtin := fun _ => do
  sayLine "0m0.000000s 0m0.000000s"
  sayLine "0m0.000000s 0m0.000000s"

/-! ### Signals -/

/-- The signal that a text names: by its number, or by its name in letters of any case. -/
def signalOf? (s : String) : Option Nat :=
  let name := s.toUpper
  match number? s with
  | some n => if n ≤ Signal.largest then some n else none
  | none =>
    if name = "EXIT" then some 0
    else if name = "RTMIN" then some 34
    else if name = "RTMAX" then some 64
    else if name = "STKFLT" then none
    else (Signal.ofName? name).map (·.number)

/-- The name of a signal as the shell writes it. -/
def signalName (n : Nat) : String :=
  match Signal.ofNumber? n with
  | some s => if s.name = "STKFLT" then "16" else s.name
  | none =>
    if n = 0 then "EXIT"
    else if n < 34 then toString n
    else if n = 34 then "RTMIN"
    else if n < 50 then "RTMIN+" ++ toString (n - 34)
    else if n < 64 then "RTMAX-" ++ toString (64 - n)
    else "RTMAX"

/-- Sets what is done about signals, or back to what they do by themselves. -/
def handle (action : Option String) : List String → Act Unit
  | [] => pure ()
  | name :: rest => do
    match signalOf? name with
    | none => do
      tell ("trap: " ++ name ++ ": bad trap\n")
      setStatus 1
    | some n => do
      modify fun s => { s with
        traps := s.traps.filter (·.1 ≠ n) ++ (action.map fun a => (n, a)).toList }
      handle action rest

/-- What is to be done about signals, or at the end of the shell. -/
def trap : Builtin := fun c => do
  withOptions [] c.args fun _ args => do
    match args with
    | [] =>
      for t in (← get).traps.mergeSort (fun a b => a.1 ≤ b.1) do
        sayLine ("trap -- " ++ quoted t.2 ++ " " ++ signalName t.1)
    | [name] => handle none [name]
    | action :: names =>
      if ((number? action).any fun n => n ≤ Signal.largest) then handle none (action :: names)
      else handle (if action = "-" then none else some action) names

end ServerTrials.Client.Shell.Builtin
