import ServerTrials.Server.ConfigLog
import ServerTrials.Server.Positional
import ServerTrials.Trial.Run

/-!
A simulated server: one that runs, on a given host, with whatever configuration its options stand for.

It refuses a start while it runs, before it looks at the options. A stop never fails; on a stopped
server it does nothing.
-/

namespace ServerTrials

/-- A simulated server: its host, the configuration it runs with, and how often it was started and
stopped. -/
structure SimServer where
  host : Host
  running : Option ServerConfig
  starts : Nat
  stops : Nat
  deriving DecidableEq, Repr

namespace SimServer

/-- A stopped server. -/
def new (host : Host) : SimServer := ⟨host, none, 0, 0⟩

/-- Whether the server runs. -/
def isRunning (s : SimServer) : Bool := s.running.isSome

/-- Starts the server; options that were not given are the empty map. -/
def start (options : Option OptionMap) (s : SimServer) : Except ServiceError Bool × SimServer :=
  if s.isRunning then (.error .alreadyRunning, s)
  else
    match ServerConfig.ofOptions (options.getD .empty) s.host with
    | .error e => (.error (.invalidConfig e), s)
    | .ok c => (.ok true, { s with running := some c, starts := s.starts + 1 })

/-- Starts the server with positional arguments; these are judged before anything else. -/
def startPositional (args : List (Option Json)) (s : SimServer) :
    Except ServiceError Bool × SimServer :=
  match Positional.options args with
  | .error e => (.error (.invalidConfig e), s)
  | .ok o => s.start (some o)

/-- Stops the server. -/
def stop (s : SimServer) : Except ServiceError Unit × SimServer :=
  if s.isRunning then (.ok (), { s with running := none, stops := s.stops + 1 }) else (.ok (), s)

/-! ### Histories -/

/-- What can be done with a server. -/
inductive Operation where
  | start (options : Option OptionMap)
  | startPositional (args : List (Option Json))
  | stop
  deriving DecidableEq

/-- The answer to an operation. -/
inductive Answer where
  | started (result : Except ServiceError Bool)
  | stopped (result : Except ServiceError Unit)

/-- Performs an operation. -/
def step (s : SimServer) : Operation → Answer × SimServer
  | .start o => (s.start o).map .started id
  | .startPositional args => (s.startPositional args).map .started id
  | .stop => s.stop.map .stopped id

/-- The server after operations. -/
def run (s : SimServer) (ops : List Operation) : SimServer := ops.foldl (fun s op => (s.step op).2) s

/-! ### Log -/

open Log

/-- What the server reports during a start. -/
def startLog (options : Option OptionMap) (s : SimServer) : List Event :=
  if s.isRunning then []
  else
    let o := options.getD .empty
    ServerConfig.log o ++
      match ServerConfig.ofOptions o s.host with
      | .error _ => []
      | .ok c => [⟨.debug, .fleet, "server started",
          [("protocol", c.protocol.label), ("mode", c.mode.label),
            ("primary", c.endpoints.pp.text)]⟩]

/-- What the server reports during a start with positional arguments. -/
def startPositionalLog (args : List (Option Json)) (s : SimServer) : List Event :=
  Positional.log args ++
    match Positional.options args with
    | .error _ => []
    | .ok o => s.startLog (some o)

/-- What the server reports during a stop. -/
def stopLog (s : SimServer) : List Event :=
  if s.isRunning then [⟨.debug, .fleet, "server stopped", []⟩] else []

/-- What the server reports during an operation. -/
def stepLog (s : SimServer) : Operation → List Event
  | .start o => s.startLog o
  | .startPositional args => s.startPositionalLog args
  | .stop => s.stopLog

/-- The server as a service under trial. -/
def service : Trial.Service SimServer where
  start o s := s.start (some o)
  stop s := s.stop
  startLog o s := s.startLog (some o)
  stopLog s := s.stopLog

end SimServer
end ServerTrials
