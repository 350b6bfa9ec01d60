import ServerTrials.Server.Config
import ServerTrials.Log.Event

/-!
Positional arguments: a primary endpoint, an alternate endpoint and extra options, each of which may
be left out.

An endpoint argument is a port number or an object with `port`, `interface` and `advertised`; the
extras are a protocol name or an object. Both ports are always filled in: the primary one with its
default, the alternate one with the successor of the primary.
-/

namespace ServerTrials.Positional

/-- The option names of an endpoint. -/
structure Role where
  port : String
  interface : String
  advertised : String

/-- The option names of the primary endpoint. -/
def primary : Role := ⟨Key.primaryPort, Key.primaryInterface, Key.primaryAdvertised⟩

/-- The option names of the alternate endpoint. -/
def alternate : Role := ⟨Key.alternatePort, Key.alternateInterface, Key.alternateAdvertised⟩

/-- The options that extras may hold. -/
def extraKeys : List String :=
  [Key.protocol, Key.mode, Key.family, Key.maxConnections, Key.verbosity]

/-- Copies a member of an object into the options, if it is there. -/
def copy (members : List (String × Json)) (o : OptionMap) (names : String × String) : OptionMap :=
  match Json.get? members names.1 with
  | some v => o.insert names.2 v
  | none => o

/-- The options with those of an endpoint argument. -/
def addEndpoint (position : Nat) (role : Role) (argument : Option Json) (o : OptionMap) :
    Except ConfigError OptionMap :=
  match argument with
  | none => .ok o
  | some (.object members) =>
    .ok ([("port", role.port), ("interface", role.interface), ("advertised", role.advertised)].foldl
      (copy members) o)
  | some (.number n) => .ok (o.insert role.port (.number n))
  | some _ => .error (.invalidEndpointArgument position)

/-- The options with a port for the role: the one they have, which must be an integer, or the given
one. -/
def fillPort (role : Role) (missing : Except ConfigError Int) (o : OptionMap) :
    Except ConfigError OptionMap :=
  match o.get? role.port with
  | some v =>
    match v.int64? with
    | some _ => .ok o
    | none => .error (.invalidType role.port "an integer")
  | none => do .ok (o.insert role.port (.number (.integer (← missing))))

/-- The primary port in the options; zero if there is none. -/
def primaryPortOf (o : OptionMap) : Int := ((o.get? Key.primaryPort).bind Json.int64?).getD 0

/-- The alternate port that follows a primary one: its successor modulo 65536. The largest integer has
no successor. -/
def successor (port : Int) : Except ConfigError Int :=
  if port + 1 < Json.int64Bound then .ok ((port + 1) % 65536)
  else .error (.portOutOfRange Key.primaryPort port)

/-- The options with those of the extras. -/
def addExtras (argument : Option Json) (o : OptionMap) : Except ConfigError OptionMap :=
  match argument with
  | none => .ok o
  | some (.object members) => .ok ((extraKeys.map fun k => (k, k)).foldl (copy members) o)
  | some (.string s) => .ok (o.insert Key.protocol (.string s))
  | some _ => .error .invalidExtrasArgument

/-- The argument at a position; one beyond the list is left out. -/
def argument (args : List (Option Json)) (position : Nat) : Option Json := (args[position]?).join

/-- The options after the primary endpoint. -/
def withPrimary (args : List (Option Json)) : Except ConfigError OptionMap := do
  let o ← addEndpoint 0 primary (argument args 0) .empty
  fillPort primary (.ok ServerConfig.defaultPrimaryPort.toNat) o

/-- The options after the alternate endpoint. -/
def withAlternate (args : List (Option Json)) (o : OptionMap) : Except ConfigError OptionMap := do
  let o ← addEndpoint 1 alternate (argument args 1) o
  fillPort alternate (successor (primaryPortOf o)) o

/-- The options that positional arguments stand for. -/
def options (args : List (Option Json)) : Except ConfigError OptionMap :=
  if 3 < args.length then .error (.tooManyArguments args.length)
  else do
    let o ← withPrimary args
    let o ← withAlternate args o
    addExtras (argument args 2) o

/-! ### Log -/

open Log

/-- The report about an argument that was left out. -/
def defaultsLog (argument : Option Json) (message : String) (fields : List (String × String)) :
    List Event :=
  match argument with
  | none => [⟨.debug, .options, message, fields⟩]
  | some _ => []

/-- The reports about the arguments that were left out, up to the first one that is refused. -/
def log (args : List (Option Json)) : List Event :=
  if 3 < args.length then []
  else
    defaultsLog (argument args 0) "endpoint will use defaults" [("position", "0")] ++
      match withPrimary args with
      | .error _ => []
      | .ok o =>
        defaultsLog (argument args 1) "endpoint will use defaults" [("position", "1")] ++
          match withAlternate args o with
          | .error _ => []
          | .ok _ => defaultsLog (argument args 2) "extra options will use defaults" []

end ServerTrials.Positional
