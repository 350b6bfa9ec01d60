import ServerTrials.Client.Signal
import ServerTrials.Fleet.Error
import ServerTrials.Text.Blank
import ServerTrials.Text.Utf8

/-!
What a client process leaves behind, and what a probe makes of it.

A word on the error output means failure, whatever the exit status; blanks alone are no word. Without
one, success is an exit status of zero.
-/

namespace ServerTrials.Client

/-- How a process ended. -/
inductive Status where
  | exited (code : Nat)
  | killed (signal : Nat)
  deriving DecidableEq, Repr

namespace Status

/-- The text of a status. -/
def text : Status → String
  | .exited code => "exit status: " ++ toString code
  | .killed signal =>
    "signal: " ++ toString signal ++
      match Signal.ofNumber? signal with
      | some s => " (SIG" ++ s.name ++ ")"
      | none => ""

/-- The status as a shell counts it. -/
def code : Status → Nat
  | .exited code => code
  | .killed signal => 128 + signal

end Status

/-- A finished process: what it wrote, how it ended, and how many milliseconds its outputs were open. -/
structure Process where
  stdout : List UInt8
  stderr : List UInt8
  status : Status
  elapsed : Nat
  deriving DecidableEq, Repr

/-- What a probe makes of a finished process. -/
def Process.judge (p : Process) : Except Fleet.ProbeError String :=
  let complaint := Text.decodeLossy p.stderr
  if Text.trim complaint ≠ "" then .error (.stderr (Text.trimEnd complaint))
  else if p.status = .exited 0 then .ok (Text.decodeLossy p.stdout)
  else .error (.exitStatus p.status.text)

end ServerTrials.Client
