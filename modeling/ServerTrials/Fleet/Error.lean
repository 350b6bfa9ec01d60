import ServerTrials.Server.ServiceError
import ServerTrials.Text.Duration

/-!
Failures of probes and of the instances of a fleet.
-/

namespace ServerTrials.Fleet

/-- Why a probe failed. -/
inductive ProbeError where
  /-- The client did not run. -/
  | spawn (client reason : String)
  /-- The client wrote to its error output. -/
  | stderr (text : String)
  /-- The client ended without success and without a word. -/
  | exitStatus (status : String)
  /-- The time limit, in milliseconds, passed. -/
  | timeout (limit : Nat)
  /-- The probe itself broke off. -/
  | aborted (detail : String)
  deriving DecidableEq, Repr

/-- The wording of a probe's failure. -/
def ProbeError.message : ProbeError → String
  | .spawn client reason => "failed to spawn " ++ client ++ ": " ++ reason
  | .stderr text => "client reported an error: " ++ text
  | .exitStatus status => "client exited with " ++ status
  | .timeout limit => "probe timed out after " ++ Text.durationText limit
  | .aborted detail => "probe task aborted: " ++ detail

/-- A failure of one instance. -/
inductive InstanceError where
  | create (index : Nat) (source : ServiceError)
  | start (index : Nat) (source : ServiceError)
  | startDeclined (index : Nat)
  | probe (index : Nat) (port : UInt16) (source : ProbeError)
  | stop (index : Nat) (source : ServiceError)
  deriving DecidableEq, Repr

namespace InstanceError

/-- The instance that failed. -/
def index : InstanceError → Nat
  | .create i _ | .start i _ | .startDeclined i | .probe i _ _ | .stop i _ => i

/-- The wording of an instance's failure. -/
def message : InstanceError → String
  | .create i source => "instance " ++ toString i ++ ": creation failed: " ++ source.message
  | .start i source => "instance " ++ toString i ++ ": start failed: " ++ source.message
  | .startDeclined i => "instance " ++ toString i ++ ": start returned false"
  | .probe i port source =>
    "instance " ++ toString i ++ ": probe of port " ++ toString port.toNat ++ " failed: "
      ++ source.message
  | .stop i source => "instance " ++ toString i ++ ": stop failed: " ++ source.message

/-- The wordings of the failures behind an instance's failure, nearest first. -/
def causes : InstanceError → List String
  | .create _ source | .start _ source | .stop _ source => source.message :: source.causes
  | .startDeclined _ => []
  | .probe _ _ source => [source.message]

end InstanceError
end ServerTrials.Fleet
