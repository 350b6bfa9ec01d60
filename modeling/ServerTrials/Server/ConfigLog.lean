import ServerTrials.Log.Event
import ServerTrials.Server.Config

/-!
What the server reports while it judges its options: each option it has settled, in the order of the
rules, up to the first rule that is broken.
-/

namespace ServerTrials

/-- The protocol as a log line shows it. -/
def Protocol.label : Protocol → String
  | .udp => "Udp"
  | .tcp => "Tcp"

/-- The mode as a log line shows it. -/
def Mode.label : Mode → String
  | .basic => "Basic"
  | .full => "Full"

namespace ServerConfig

open Log

/-- A report about one settled option. -/
def settled (message : String) (fields : List (String × String)) : Event :=
  ⟨.debug, .options, message, fields⟩

/-- The report about a port, made only if the options name one. -/
def portLog (o : OptionMap) (key : String) (port : UInt16) : List Event :=
  if o.contains key then
    [settled "port set" [("key", Text.quoted key), ("port", toString port.toNat)]]
  else []

/-- The reports about the ports. -/
def portsLog (o : OptionMap) : List Event :=
  match readPrimaryPort o with
  | .error _ => []
  | .ok p =>
    portLog o Key.primaryPort p ++
      match readAlternatePort o with
      | .error _ => []
      | .ok a => portLog o Key.alternatePort a

/-- The reports about the protocol and what follows it. -/
def protocolLog (o : OptionMap) : List Event :=
  match readProtocol o with
  | .error _ => []
  | .ok protocol =>
    settled "protocol resolved" [("protocol", protocol.label)] ::
      match readMaxConnections o protocol with
      | .error _ => []
      | .ok _ => portsLog o

/-- The reports about the family and what follows it. -/
def familyLog (o : OptionMap) : List Event :=
  match readFamily o with
  | .error _ => []
  | .ok family => settled "family resolved" [("family", family.name)] :: protocolLog o

/-- All reports of judging the options. -/
def log (o : OptionMap) : List Event :=
  match readMode o with
  | .error _ => []
  | .ok mode =>
    settled "mode resolved" [("mode", mode.label), ("explicit", flag (o.contains Key.mode))]
      :: familyLog o

end ServerConfig
end ServerTrials
