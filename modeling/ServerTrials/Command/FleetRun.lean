import ServerTrials.Client.Machine
import ServerTrials.Command.FleetCommand

/-!
The fleet command on a machine, whose programs and scripts are the clients.
-/

namespace ServerTrials.Command.FleetRun

/-- Where the command runs: the machine with the clients, and the ports that somebody else holds. -/
structure Site where
  machine : Client.Machine
  held : List UInt16
  deriving DecidableEq, Repr

/-- The command with the variables that `lookup` finds. -/
def run (site : Site) (lookup : String → Option String) : Transcript :=
  FleetCommand.run ⟨site.machine.spawn, site.held⟩ lookup

end ServerTrials.Command.FleetRun
