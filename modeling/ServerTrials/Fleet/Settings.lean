import ServerTrials.Server.Options
import ServerTrials.Text.Blank
import ServerTrials.Text.Numeral

/-!
Settings of a fleet: how many instances, on which ports, probed by which client.

Settings come from variables. The count and the base port answer to an older name as well, which is
read only if the newer one is not set at all. Instance `i` of a fleet gets the ports `base + 2 i` and
`base + 2 i + 1`, which have to be ports.
-/

namespace ServerTrials.Fleet

/-- What is wrong with settings. -/
inductive SettingsError where
  /-- A variable that should be a natural number of its size is none. -/
  | invalidInteger (name value : String)
  /-- The ports run past the last one. -/
  | portRangeOverflow (basePort : UInt16) (instanceCount : Nat)
  deriving DecidableEq, Repr

/-- The wording of what is wrong. -/
def SettingsError.message : SettingsError → String
  | .invalidInteger name value =>
    name ++ " must be a non-negative integer, got " ++ Text.quoted value
  | .portRangeOverflow basePort instanceCount =>
    toString instanceCount ++ " instances starting at port " ++ toString basePort.toNat
      ++ " exceed the port range"

/-- The settings of a fleet; the time limit of a probe is in milliseconds. -/
structure Settings where
  instanceCount : Nat
  basePort : UInt16
  client : String
  probeHost : String
  probeTimeout : Nat
  deriving DecidableEq, Repr

/-- The two ports of an instance. -/
structure PortPair where
  primary : UInt16
  alternate : UInt16
  deriving DecidableEq, Repr

namespace Settings

/-- The settings if no variable is set. -/
def default : Settings := ⟨5, 3000, "stunclient", "localhost", 10000⟩

/-! ### Ports -/

/-- The pairs of `count` instances from port `next` on; none as soon as a pair does not fit. -/
def allocate (next : Nat) : Nat → Option (List PortPair)
  | 0 => some []
  | count + 1 =>
    if next + 1 < 65536 then
      (allocate (next + 2) count).map (⟨next.toUInt16, (next + 1).toUInt16⟩ :: ·)
    else none

/-- The pairs of all instances, in their order. -/
def portPairs (s : Settings) : Except SettingsError (List PortPair) :=
  match allocate s.basePort.toNat s.instanceCount with
  | some pairs => .ok pairs
  | none => .error (.portRangeOverflow s.basePort s.instanceCount)

/-! ### Variables -/

/-- The names of the instance count, the newer first. -/
def countNames : List String := ["STUN_NUMBER", "stun_number"]

/-- The names of the base port, the newer first. -/
def basePortNames : List String := ["STUN_BASEPORT", "baseport"]

/-- The name of the client program. -/
def clientName : String := "STUN_CLIENT"

/-- The name of the host that probes are pointed at. -/
def probeHostName : String := "STUN_PROBE_HOST"

/-- The name of the time limit. -/
def timeoutNames : List String := ["STUN_PROBE_TIMEOUT_MS"]

/-- The first number beyond the counts and times that a variable can give. -/
def wordBound : Nat := 18446744073709551616

/-- The first number that is no port. -/
def portBound : Nat := 65536

/-- The first of the names that is set, with its text. -/
def effective? (lookup : String → Option String) (names : List String) : Option (String × String) :=
  names.findSome? fun name => (lookup name).map fun value => (name, value)

/-- The natural number below the bound that the first set name gives, blanks around it aside; none if
no name is set. -/
def readNumber (lookup : String → Option String) (names : List String) (bound : Nat) :
    Except SettingsError (Option Nat) :=
  match effective? lookup names with
  | none => .ok none
  | some (name, value) =>
    match Text.natBelow? bound (Text.trim value) with
    | some n => .ok (some n)
    | none => .error (.invalidInteger name value)

/-- The settings that the variables give; the ports have to fit. -/
def ofLookup (lookup : String → Option String) : Except SettingsError Settings := do
  let count ← readNumber lookup countNames wordBound
  let basePort ← readNumber lookup basePortNames portBound
  let timeout ← readNumber lookup timeoutNames wordBound
  let settings : Settings :=
    { instanceCount := count.getD default.instanceCount
      basePort := (basePort.map (·.toUInt16)).getD default.basePort
      client := (lookup clientName).getD default.client
      probeHost := (lookup probeHostName).getD default.probeHost
      probeTimeout := timeout.getD default.probeTimeout }
  let _ ← settings.portPairs
  .ok settings

end Settings

/-- The options of the instance on a pair of ports. -/
def instanceOptions (ports : PortPair) : OptionMap :=
  .ofList [(Key.protocol, .string "tcp"), (Key.mode, .string "basic"),
    (Key.primaryPort, .number (.integer ports.primary.toNat)),
    (Key.alternatePort, .number (.integer ports.alternate.toNat))]

end ServerTrials.Fleet
