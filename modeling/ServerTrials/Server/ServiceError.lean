import ServerTrials.Server.ConfigError

/-!
Why a call to start or stop a server fails.
-/

namespace ServerTrials

/-- The failure of a call. -/
inductive ServiceError where
  /-- The options break a rule. -/
  | invalidConfig (source : ConfigError)
  /-- A start while the server runs. -/
  | alreadyRunning
  /-- A stop while the server does not run. -/
  | notRunning
  /-- Somebody else holds a port that the server needs. -/
  | addressInUse (port : UInt16)
  /-- Any other failure of a start. -/
  | startFailed (detail : String)
  deriving DecidableEq, Repr

namespace ServiceError

/-- The wording of a failure. -/
def message : ServiceError → String
  | .invalidConfig source => "invalid configuration: " ++ source.message
  | .alreadyRunning => "server is already running"
  | .notRunning => "server already stopped"
  | .addressInUse port => "address in use: port " ++ toString port.toNat
  | .startFailed detail => "server did not start: " ++ detail

/-- The wordings of the failures behind a failure, nearest first. -/
def causes : ServiceError → List String
  | .invalidConfig source => [source.message]
  | _ => []

end ServiceError
end ServerTrials
