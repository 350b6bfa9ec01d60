import ServerTrials.Client.Shell.Script

/-!
Shells in processes of their own, and the signals that processes send each other.

A process runs to its end as soon as it is begun, on a clock of its own; its parent waits by moving its
clock on. A signal sent to a process that has run beyond that moment takes back what it did afterwards.
-/

namespace ServerTrials.Client.Shell

/-! ### Signals -/

/-- Takes in the signals that have come by now: one that is handled is kept until a command is done, one
that is ignored is lost, and any other one ends the process. -/
def takeSignals : Act Unit := do
  let s ← get
  if s.world.signals.isEmpty then return
  let (due, others) := s.world.signals.partition fun t => t.target == s.process && t.time ≤ s.now
  set { s with world := { s.world with signals := others } }
  for t in due.mergeSort fun a b => a.time ≤ b.time do
    let s ← get
    let handled := if Signal.uncatchable.contains t.signal then none
      else (s.traps.find? (·.1 == t.signal)).map (·.2)
    match handled with
    | some "" => pure ()
    | some _ => if !s.raised.contains t.signal then set { s with raised := s.raised ++ [t.signal] }
    | none =>
      if t.signal == 19 then set { s with flow := .hung }
      else if Signal.harmless.contains t.signal then pure ()
      else
        match s.flow with
        | .ended (.killed _) => pure ()
        | _ => set { s with flow := .ended (.killed t.signal), now := t.time }

/-- Does what is to be done about the signals that have come. The status stays as it was. -/
def actOnSignals (m : Means) : Act Unit := do
  takeSignals
  let s ← get
  if s.raised.isEmpty || s.flow ≠ .normal then return
  set { s with raised := [], saved := s.saved.getD s.status }
  for n in s.raised.mergeSort do
    if (← running) then
      match ((← get).traps.find? (·.1 == n)).map (·.2) with
      | some action => do
        discard (runText m {} action)
        if (← get).flow ≠ .back then modify fun t => { t with status := s.status }
      | none => pure ()
    else modify fun t => { t with raised := t.raised ++ [n] }
  modify fun t => if t.flow == .normal then { t with saved := s.saved } else t

/-- Sends a signal; answers whether there is such a process. -/
def sendSignal (target signal : Nat) : Act Bool := do
  let s ← get
  let underWay : World :=
    { s.world with signals := s.world.signals ++ [⟨s.process, target, signal, s.now⟩] }
  match s.world.life? target with
  | none => return signal == 0 && target == 1
  | some life =>
    match life.ends with
    | none => do
      if signal ≠ 0 then set { s with world := underWay }
      return true
    | some (time, _) =>
      if time < s.now || s.jobs.any (fun j => j.processes.contains target && j.waited) then return false
      else do
        if signal ≠ 0 && !Signal.harmless.contains signal
            && (!life.deaf.contains signal || Signal.uncatchable.contains signal) then
          set { s with world := s.world.cutShort target signal s.now }
        return true

/-! ### Ends -/

/-- The status that a shell leaves. -/
def State.left (s : State) : Status :=
  match s.flow with
  | .ended (.exited code) => .exited (code % 256)
  | .ended status => status
  | _ => .exited (s.status % 256)

/-- Ends a shell: what was asked for at its end runs, unless a signal has ended it. It leaves its own
status, unless that ends the shell in another way. -/
def atEnd (m : Means) : Act Unit := do
  takeSignals
  let s ← get
  if s.flow == .hung then return
  match s.left, s.traps.find? (·.1 == 0) with
  | .exited code, some (_, action) => do
    set { s with
      flow := .normal, status := code, saved := some code, traps := s.traps.filter (·.1 ≠ 0)
      speaker := none }
    discard (runText m {} action)
    match (← get).flow with
    | .ended _ | .hung => pure ()
    | .failed => modify fun s => { s with flow := .ended (.exited s.status) }
    | _ => modify fun s => { s with flow := .ended (.exited code) }
  | status, _ => set { s with flow := .ended status }

/-- When and how a process ended that is a shell. -/
def State.ends (s : State) : Nat × Status := (if s.flow == .hung then never else s.now, s.left)

/-- Runs something in a shell of its own and answers that shell at its end. What it did to the world
stays. -/
def inSubshell (m : Means) (prepare : State → State) (act : Act Unit) : Act State := do
  let process ← newProcess
  let s ← get
  let child := prepare { s with
    process, flow := .normal, raised := [], jobs := [], now := s.now + wakeTime
    traps := s.traps.filter fun t => t.1 ≠ 0 && t.2 == "" }
  let (_, child) := (do act; atEnd m : Act Unit).run child
  let life (l : Life) : Life := { l with
    ends := some child.ends, deaf := child.traps.map (·.1), channels := child.fds.map (·.2) }
  set { s with world := child.world.changeLife process life }
  return child

/-! ### Waiting -/

/-- Tells that a signal has ended a process, unless that is a usual end. -/
def tellDeath (status : Status) : Act Unit := do
  match status with
  | .killed n => if n ≠ 2 && n ≠ 13 then tell (Signal.wordingOf n ++ "\n")
  | .exited _ => pure ()

/-- When and how a process ends. -/
def endOf (process : Nat) : Act (Nat × Status) := do
  return (((← get).world.life? process).bind (·.ends)).getD (0, .exited 127)

/-- Waits for processes that were begun together; answers the status of the last one. -/
def awaitAll (processes : List Nat) : Act Nat := do
  let mut code := 0
  for p in processes do
    let (time, status) ← endOf p
    waitUntil time
    tellDeath status
    code := status.code
    if time == never then modify fun s => { s with flow := .hung }
  return code

end ServerTrials.Client.Shell
