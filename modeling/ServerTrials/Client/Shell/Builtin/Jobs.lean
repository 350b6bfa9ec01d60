import ServerTrials.Client.Shell.Builtin.Control

/-!
Commands on other processes: waiting for them, sending them signals, and listing them.
-/

namespace ServerTrials.Client.Shell.Builtin

/-! ### Waiting -/

/-- The first handled signal that comes by a time: its number and when it comes. -/
def State.interruption? (s : State) (until_ : Nat) : Option (Nat × Nat) :=
  let heard := s.world.signals.filter fun t =>
    t.target == s.process && t.time ≤ until_ && s.traps.any fun u => u.1 == t.signal && u.2 ≠ ""
  match heard.mergeSort fun a b => a.time ≤ b.time with
  | t :: _ => some (t.signal, t.time)
  | [] => none

/-- Waits up to a time and goes on, unless a handled signal comes before. -/
def waitOr (time : Nat) (next : Act Unit) : Act Unit := do
  match State.interruption? (← get) time with
  | some (signal, at_) => do
    waitUntil at_
    setStatus (128 + signal)
  | none =>
    if time == never then modify fun s => { s with flow := .hung }
    else do
      waitUntil time
      next

/-- The job that a text names by a percent sign. -/
def jobOf? (s : State) (name : String) : Option Job :=
  match name.toList with
  | '%' :: cs =>
    if cs.isEmpty || cs == ['%'] || cs == ['+'] then s.jobs.getLast?
    else if cs == ['-'] then s.jobs[s.jobs.length - 2]?
    else (number? (String.ofList cs)).bind fun n => if n = 0 then none else s.jobs[n - 1]?
  | _ => none

/-- Waits for a job, tells of its death by a signal if it is still to come, and sets its status. -/
def waitForJob (j : Job) : Act Unit := do
  let s ← get
  let ends ← j.processes.mapM endOf
  waitOr (ends.foldl (fun t e => max t e.1) 0) do
    for (time, status) in ends do
      if s.now ≤ time && !j.waited then tellDeath status
    modify fun t => { t with
      status := (ends.getLast?.map (·.2.code)).getD 127
      jobs := t.jobs.map fun k =>
        if k.processes == j.processes then { k with waited := true } else k }

/-- The complaint about a job that is not there. -/
def noJob (name : String) : String :=
  if ["%", "%%", "%+", "%-"].contains name then "No current job" else "No such job: " ++ name

/-- Waits for processes and jobs one after the other. -/
def waitEach : List String → Act Unit
  | [] => pure ()
  | a :: rest => do
    let s ← get
    if a.toList.head? == some '%' then
      match jobOf? s a with
      | some j => waitForJob j
      | none => fail (noJob a)
    else
      withNumber a fun n =>
        match s.jobs.find? fun j => j.processes.getLast? == some n with
        | some j => waitForJob j
        | none => setStatus 127
    if (← running) then waitEach rest

/-- Waits for processes and jobs, or for all of them. -/
def wait : Builtin := fun c => do
  withOptions [] c.args fun _ args => do
    if args.isEmpty then
      let s ← get
      let ends ← (s.jobs.flatMap (·.processes)).mapM endOf
      waitOr (ends.foldl (fun t e => max t e.1) s.now) do
        modify fun t => { t with jobs := t.jobs.map ({ · with waited := true }) }
    else waitEach args

/-! ### Signals -/

/-- How signals are sent. -/
def killUsage : String :=
  "Usage: kill [-s sigspec | -signum | -sigspec] [pid | job]... or\nkill -l [exitstatus]"

/-- Sends a signal to processes. -/
def sendEach (signal : Nat) : List String → Act Unit
  | [] => pure ()
  | a :: rest => do
    let noProcess : Act Unit := refuse "No such process\n" 1
    if a.toList.head? == some '%' then
      match jobOf? (← get) a with
      | some _ => noProcess
      | none => fail (noJob a)
    else
      withNumber (if a.toList.head? == some '-' then (a.drop 1).toString else a) fun n => do
        if a.toList.head? == some '-' || !(← sendSignal n signal) then noProcess
    if (← running) then sendEach signal rest

/-- Writes the names of signals. -/
def sayNames (args : List String) : Act Unit := do
  match args with
  | [] =>
    sayLine "0"
    for n in List.range Signal.largest do
      sayLine (signalName (n + 1))
  | a :: _ =>
    withNumber a fun n =>
      let n := if 128 < n then n - 128 else n
      if 0 < n && n ≤ Signal.largest then sayLine (signalName n)
      else fail ("invalid signal number or exit status: " ++ a)

/-- Sends signals, or writes their names. -/
def kill : Builtin := fun c => do
  let send (name : String) (args : List String) : Act Unit :=
    match signalOf? name with
    | some n => if args.isEmpty then fail killUsage else sendEach n args
    | none => fail ("invalid signal number or name: " ++ name)
  match c.args with
  | [] => fail killUsage
  | "--" :: args => if args.isEmpty then fail killUsage else sendEach 15 args
  | a :: args =>
    match a.toList with
    | ['-', 'l'] => sayNames args
    | ['-', 's'] =>
      match args with
      | name :: args => send name args
      | [] => fail "No arg for -s option"
    | '-' :: 's' :: name => 
      if (signalOf? (String.ofList ('s' :: name))).isSome then send (String.ofList ('s' :: name)) args
      else send (String.ofList name) args
    | '-' :: ch :: name =>
      if (signalOf? (String.ofList (ch :: name))).isSome then send (String.ofList (ch :: name)) args
      else fail ("Illegal option -" ++ String.ofList [ch])
    | _ => sendEach 15 (a :: args)

/-! ### Lists -/

/-- What a list of jobs says about one. -/
def jobState (now : Nat) (ends : Nat × Status) : String :=
  if now < ends.1 then "Running"
  else
    match ends.2 with
    | .exited 0 => "Done"
    | .exited n => "Done(" ++ toString n ++ ")"
    | .killed n => Signal.wordingOf n

/-- Writes the jobs that were not waited for, and forgets those that are done. -/
def jobs : Builtin := fun c => do
  withOptions [('l', false), ('p', false)] c.args fun given _ => do
    let s ← get
    let mut kept := 0
    for (j, i) in s.jobs.zipIdx.reverse do
      if !j.listed then
        let process := j.processes.getLast?.getD 0
        let ends ← endOf process
        if given.contains 'p' then sayLine (toString process)
        else
          let mark := if kept = 0 then "+" else if kept = 1 then "-" else " "
          let number := if given.contains 'l' then toString process ++ " " else ""
          let front := "[" ++ toString (i + 1) ++ "] " ++ mark ++ " " ++ number ++ jobState s.now ends
          sayLine (front ++ String.ofList (List.replicate (33 - front.length) ' '))
        if s.now < ends.1 then kept := kept + 1
        else
          modify fun t => { t with
            jobs := t.jobs.map fun k => if k.processes == j.processes then { k with listed := true } else k }

/-- Brings a job to the front, which there is none to do. -/
def noCurrentJob : Builtin := fun c => fail (noJob (c.args.headD "%"))

end ServerTrials.Client.Shell.Builtin
