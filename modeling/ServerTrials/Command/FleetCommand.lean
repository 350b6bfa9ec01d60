import ServerTrials.Client.Process
import ServerTrials.Command.Transcript
import ServerTrials.Fleet.Members

/-!
The fleet command: runs listening instances with the settings of its variables, probes each with the
client program, and prints what the clients wrote. What the clients do is up to the `Site`.
-/

namespace ServerTrials.Command.FleetCommand

open Fleet Log

/-- Where the command runs: what comes of running a client by its name against a host and port, and the
ports that somebody else holds. -/
structure Site where
  spawn : String → String → UInt16 → Except ProbeError Client.Process
  held : List UInt16

/-- Probes with a client. A client that does not run fails at once; one that runs takes longer than
nothing and longer than it waits. -/
def prober (site : Site) (client : String) (limit : Nat) : Prober := fun p =>
  match site.spawn client p.host p.port with
  | .error e => .failed e
  | .ok process =>
    if process.elapsed < limit then
      match process.judge with
      | .ok stdout => .passed stdout
      | .error e => .failed e
    else .late

/-- The report that opens the command's log. -/
def openingLog (s : Settings) : Event :=
  ⟨.info, .fleetCommand, "starting instances",
    [("instances", toString s.instanceCount), ("base_port", toString s.basePort.toNat),
      ("client", s.client)]⟩

/-- The report that closes the command's log. -/
def closingLog (r : FleetReport) : Event :=
  ⟨.info, .fleetCommand, "run complete",
    [("started", toString r.started), ("probed", toString r.probesCompleted),
      ("stopped", toString r.stopped)]⟩

/-- The line that a probed instance adds to the output. -/
def outputLine (o : InstanceOutcome) : String :=
  match o.probeOutput with
  | some stdout => Text.trimEnd stdout ++ "\n"
  | none => ""

/-- The command with these settings and port pairs. -/
def runWith (site : Site) (filter : Filter) (s : Settings) (pairs : List PortPair) : Transcript :=
  let factory := members .dualHomed true (Binder.excluding site.held) fun _ => none
  let run := factory.run pairs s (prober site s.client s.probeTimeout) .together ⟨0, .empty⟩
  let log := openingLog s :: run.log ++ [closingLog run.report]
  let stdout := String.join (run.report.instances.map outputLine)
  match run.report.result with
  | .ok _ => ⟨0, stdout, "", filter.apply log⟩
  | .error e => ⟨1, stdout, failureText e.message e.causes, filter.apply log⟩

/-- The command with the variables that `lookup` finds. -/
def run (site : Site) (lookup : String → Option String) : Transcript :=
  let settings := Settings.ofLookup lookup
  match settings, settings.bind Settings.portPairs with
  | .ok s, .ok pairs => runWith site (Filter.ofSetting (lookup filterName)) s pairs
  | .error e, _ | _, .error e => ⟨1, "", failureText "invalid environment" [e.message], []⟩

end ServerTrials.Command.FleetCommand
