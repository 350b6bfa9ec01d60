/-!
Log events: what a component reports while it works.

An event has a level, the component that reports it, a message and named fields; a field holds the
text that the line shows. Levels are ordered by how much they tell, errors first.
-/

namespace ServerTrials.Log

/-- How much an event tells. -/
inductive Level where
  | error
  | warn
  | info
  | debug
  | trace
  deriving DecidableEq, Repr

namespace Level

/-- The place of a level in the order, errors first. -/
def rank : Level → Nat
  | .error => 1
  | .warn => 2
  | .info => 3
  | .debug => 4
  | .trace => 5

/-- The level as a line shows it. -/
def name : Level → String
  | .error => "ERROR"
  | .warn => "WARN"
  | .info => "INFO"
  | .debug => "DEBUG"
  | .trace => "TRACE"

end Level

/-- The parts of the program that report events. -/
inductive Component where
  | options
  | trial
  | fleet
  | matrixCommand
  | fleetCommand
  deriving DecidableEq, Repr

/-- The name by which a filter selects a component. -/
def Component.name : Component → String
  | .options => "stunprobe_config"
  | .trial => "stunprobe_core"
  | .fleet => "stunprobe_harness"
  | .matrixCommand => "config_matrix"
  | .fleetCommand => "multi_instance"

/-- A reported event. -/
structure Event where
  level : Level
  component : Component
  message : String
  fields : List (String × String)
  deriving DecidableEq, Repr

namespace Event

/-- Level and message. -/
def title (e : Event) : String := e.level.name ++ " " ++ e.message

/-- The line of an event: its title, then its fields. -/
def line (e : Event) : String :=
  e.fields.foldl (fun s f => s ++ " " ++ f.1 ++ "=" ++ f.2) e.title

/-- The events of a list that are no finer than the level. -/
def upTo (level : Level) (es : List Event) : List Event :=
  es.filter fun e => e.level.rank ≤ level.rank

end Event

/-- The text of a truth value in a field. -/
def flag (b : Bool) : String := if b then "true" else "false"

end ServerTrials.Log
