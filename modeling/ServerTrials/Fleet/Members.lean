import ServerTrials.Fleet.Run
import ServerTrials.Server.Instance

/-!
Where the instances of a fleet come from: simulated instances on one host and registry, some of them
replaced by scripts that answer as they are told and hold no ports.
-/

namespace ServerTrials.Fleet

/-- The answers of a scripted instance. -/
structure Script where
  create : Except ServiceError Unit
  start : Except ServiceError Bool
  stop : Except ServiceError Unit

/-- An instance of a fleet. -/
inductive Member where
  | simulated (inst : Instance)
  | scripted (script : Script)

/-- The world of a fleet: how many instances were asked for, and the ports held. -/
structure World where
  asked : Nat
  registry : Registry

/-- Creates the next instance: a scripted one if there is a script of that number, or a simulated one. -/
def createMember (host : Host) (listening : Bool) (scripts : Nat → Option Script) (o : OptionMap)
    (w : World) : Except ServiceError Member × World :=
  let next := { w with asked := w.asked + 1 }
  match scripts w.asked with
  | some s => (s.create.map fun _ => .scripted s, next)
  | none => ((Instance.create o host listening).map .simulated, next)

/-- Starts an instance. -/
def startMember (bind : Binder) (m : Member) (w : World) : Except ServiceError Bool × Member × World :=
  match m with
  | .simulated i =>
    let (answer, i, r) := i.start bind w.registry
    (answer, .simulated i, { w with registry := r })
  | .scripted s => (s.start, m, w)

/-- Stops an instance. -/
def stopMember (m : Member) (w : World) : Except ServiceError Unit × Member × World :=
  match m with
  | .simulated i =>
    let (answer, i, r) := i.stop w.registry
    (answer, .simulated i, { w with registry := r })
  | .scripted s => (s.stop, m, w)

/-- Gives an instance up. -/
def dropMember (m : Member) (w : World) : World :=
  match m with
  | .simulated i => { w with registry := i.drop w.registry }
  | .scripted _ => w

/-- The factory of simulated instances with some scripted ones among them: the `n`-th instance to be
created follows the script of that number, if there is one. -/
def members (host : Host) (listening : Bool) (bind : Binder) (scripts : Nat → Option Script) :
    Factory Member World where
  create := createMember host listening scripts
  start := startMember bind
  stop := stopMember
  drop := dropMember
  createLog o w :=
    match scripts w.asked with
    | some _ => []
    | none => ServerConfig.log o
  startLog m w :=
    match m with
    | .simulated i => i.startLog (i.start bind w.registry).1
    | .scripted _ => []
  stopLog m w :=
    match m with
    | .simulated i => i.stopLog (i.stop w.registry).1
    | .scripted _ => []

/-! ### Instances that run beforehand -/

/-- Creates and starts an instance outside the fleet; one that is refused changes nothing. -/
def addBlocker (host : Host) (bind : Binder) (w : World) (o : OptionMap) : World :=
  match Instance.create o host false with
  | .error _ => w
  | .ok i => { w with registry := (i.start bind w.registry).2.2 }

/-- The world in which instances with these options run beforehand. -/
def worldWith (host : Host) (bind : Binder) (blockers : List OptionMap) : World :=
  blockers.foldl (addBlocker host bind) ⟨0, .empty⟩

/-- What is reported while instances are started beforehand. -/
def blockersLog (host : Host) (bind : Binder) : List OptionMap → World → List Log.Event
  | [], _ => []
  | o :: os, w =>
    ServerConfig.log o
      ++ (match Instance.create o host false with
        | .error _ => []
        | .ok i => i.startLog (i.start bind w.registry).1)
      ++ blockersLog host bind os (addBlocker host bind w o)

end ServerTrials.Fleet
