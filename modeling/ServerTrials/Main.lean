import ServerTrials.Command.FleetRun
import ServerTrials.Command.Matrix

/-!
The command line: `matrix` runs the built-in table, `fleet` a fleet of instances.
-/

namespace ServerTrials.Command

/-- The variables that the commands read. -/
def variableNames : List String :=
  Fleet.Settings.countNames ++ Fleet.Settings.basePortNames ++ Fleet.Settings.timeoutNames
    ++ [Fleet.Settings.clientName, Fleet.Settings.probeHostName, filterName]

/-- The set ones of some variables, with their texts. -/
def readVariables : List String → IO (List (String × String))
  | [] => pure []
  | name :: names => do
    let value ← IO.getEnv name
    let rest ← readVariables names
    pure (match value with
      | some v => (name, v) :: rest
      | none => rest)

/-- Writes a transcript: the log and the error output on one side, the output on the other. -/
def Transcript.print (t : Transcript) : IO UInt32 := do
  for e in t.log do
    IO.eprintln e.line
  IO.print t.stdout
  IO.eprint t.stderr
  pure t.exit.toUInt32

end ServerTrials.Command

open ServerTrials.Command in
/-- Runs the command that the first argument names. -/
def main (args : List String) : IO UInt32 := do
  let settings ← readVariables variableNames
  let lookup (name : String) : Option String := (settings.find? (·.1 == name)).map (·.2)
  match args with
  | ["matrix"] => (Matrix.run (lookup filterName)).print
  | ["fleet"] => (FleetRun.run ⟨{ scripts := [] }, []⟩ lookup).print
  | _ => do
    IO.eprintln "usage: server-trials matrix | fleet"
    pure 2
