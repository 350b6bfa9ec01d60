import ServerTrials.Log.Filter

/-!
What a command leaves behind: its exit status, its two outputs, and the events it reported.
-/

namespace ServerTrials.Command

/-- The transcript of a command; the events are those that passed its filter. -/
structure Transcript where
  exit : Nat
  stdout : String
  stderr : String
  log : List Log.Event
  deriving DecidableEq, Repr

/-- The variable that holds the filter. -/
def filterName : String := "RUST_LOG"

/-- A text whose lines after the first begin with an indent. -/
def indented (indent : String) (s : String) : String :=
  String.join (s.toList.map fun c => if c = '\n' then "\n" ++ indent else String.ofList [c])

/-- Causes under a heading, each on lines of its own and indented; numbered if there are several. -/
def causeLines (causes : List String) : String :=
  match causes with
  | [] => ""
  | [c] => "\n\nCaused by:\n    " ++ indented "    " c
  | cs =>
    "\n\nCaused by:" ++ String.join (cs.mapIdx fun i c =>
      "\n    " ++ toString i ++ ": " ++ indented "       " c)

/-- The error output of a command that failed. -/
def failureText (message : String) (causes : List String) : String :=
  "Error: " ++ message ++ causeLines causes ++ "\n"

end ServerTrials.Command
