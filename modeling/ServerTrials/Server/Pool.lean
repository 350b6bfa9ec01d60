import ServerTrials.Server.Instance

/-!
A pool of named instances over one registry.

An instance created under a name that is taken replaces the one before, which is dropped once the new
one stands; if the new one is refused, the one before stays.
-/

namespace ServerTrials

/-- Named instances and the registry they share. -/
structure Pool where
  registry : Registry
  instances : List (String × Instance)
  deriving DecidableEq, Repr

namespace Pool

/-- What can be done with a pool. -/
inductive Operation where
  | create (name : String) (options : OptionMap) (listening : Bool)
  | start (name : String)
  | stop (name : String)
  | drop (name : String)
  deriving DecidableEq

/-- The answer to an operation. -/
inductive Answer where
  | created (result : Except ServiceError ServerConfig)
  | started (result : Except ServiceError Bool)
  | stopped (result : Except ServiceError Unit)
  | dropped (existed : Bool)
  | unknown

/-- The pool without instances. -/
def empty : Pool := ⟨.empty, []⟩

/-- The instance of that name. -/
def find? (p : Pool) (name : String) : Option Instance :=
  (p.instances.find? (·.1 == name)).map (·.2)

/-- The instances under other names. -/
def others (p : Pool) (name : String) : List (String × Instance) := p.instances.filter (·.1 != name)

/-- The pool with an instance in the place of the one of that name. -/
def set (p : Pool) (name : String) (i : Instance) (r : Registry) : Pool :=
  ⟨r, p.instances.map fun e => if e.1 = name then (name, i) else e⟩

/-- The pool without the instance of that name. -/
def drop (p : Pool) (name : String) : Pool :=
  match p.find? name with
  | none => p
  | some i => ⟨i.drop p.registry, p.others name⟩

/-- Performs an operation. -/
def step (host : Host) (bind : Binder) (p : Pool) : Operation → Answer × Pool
  | .create name o listening =>
    match Instance.create o host listening with
    | .error e => (.created (.error e), p)
    | .ok i =>
      let p := p.drop name
      (.created (.ok i.config), { p with instances := p.instances ++ [(name, i)] })
  | .start name =>
    match p.find? name with
    | none => (.unknown, p)
    | some i =>
      let (answer, i, r) := i.start bind p.registry
      (.started answer, p.set name i r)
  | .stop name =>
    match p.find? name with
    | none => (.unknown, p)
    | some i =>
      let (answer, i, r) := i.stop p.registry
      (.stopped answer, p.set name i r)
  | .drop name => (.dropped (p.find? name).isSome, p.drop name)

/-- An operation, with the host and the sockets that it meets. -/
structure Move where
  host : Host
  bind : Binder
  operation : Operation

/-- The pool after a move. -/
def next (p : Pool) (m : Move) : Pool := (p.step m.host m.bind m.operation).2

/-- The pool after moves. -/
def run (p : Pool) (ms : List Move) : Pool := ms.foldl next p

/-- The names of the running instances in rising order. -/
def runningNames (p : Pool) : List String :=
  ((p.instances.filter (·.2.running)).map (·.1)).mergeSort fun a b => decide (a ≤ b)

/-- What is reported while an operation is performed. -/
def stepLog (bind : Binder) (p : Pool) : Operation → List Log.Event
  | .create _ o _ => ServerConfig.log o
  | .start name =>
    match p.find? name with
    | none => []
    | some i => i.startLog (i.start bind p.registry).1
  | .stop name =>
    match p.find? name with
    | none => []
    | some i => i.stopLog (i.stop p.registry).1
  | .drop _ => []

end Pool
end ServerTrials
