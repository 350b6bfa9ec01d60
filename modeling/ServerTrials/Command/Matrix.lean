import ServerTrials.Command.Transcript
import ServerTrials.Server.Simulated
import ServerTrials.Trial.Builtin

/-!
The matrix command: runs the built-in table against a simulated server and prints the report.
-/

namespace ServerTrials.Command.Matrix

open Trial Log

/-- A note as JSON. -/
def skipJson (s : Skip) : Json :=
  .object [("key", s.key), ("rule", s.rule), ("reason", s.reason)]

/-- The kind of a case as JSON. -/
def kindJson : CaseKind → Json
  | .valid => .object [("kind", "valid")]
  | .errorValue key => .object [("kind", "error_value"), ("key", key)]
  | .missingRequired key => .object [("kind", "missing_required"), ("key", key)]

/-- A case as JSON. -/
def caseJson (c : Case) : Json :=
  .object [("ordinal", c.ordinal), ("config", c.config.toJson), ("expected", c.expected.name),
    ("kind", kindJson c.kind), ("annotations", .array (c.skips.map skipJson))]

/-- An observation as JSON. -/
def observedJson : Observed → Json
  | .accepted => .object [("outcome", "accepted")]
  | .rejected reason => .object [("outcome", "rejected"), ("reason", reason)]

/-- An outcome as JSON. -/
def outcomeJson (o : Outcome) : Json :=
  .object [("ordinal", o.ordinal), ("expected", o.expected.name),
    ("observed", observedJson o.observed), ("stopped", o.stopped),
    ("stop_error", (o.stopError.map Json.string).getD .null), ("matched", o.matched),
    ("payload", (o.payload.map caseJson).getD .null)]

/-- A report as JSON. -/
def reportJson (r : Report) : Json :=
  .object [("total", r.total), ("passed", r.passed), ("accepted", r.accepted),
    ("rejected", r.rejected), ("expected_accept", r.expectedAccept), ("annotated", r.withSkips),
    ("stop_calls", r.stopCalls), ("failures", .array (r.failures.map outcomeJson))]

/-- The report that opens the command's log. -/
def openingLog (t : Table) : Event :=
  ⟨.info, .matrixCommand, "generating cases",
    [("fields", toString t.fields.length),
      ("expected_without_rules", toString t.expectedCaseCount)]⟩

/-- The error output of the command after a run with that report. -/
def verdictText (r : Report) : String :=
  if r.isSuccess then ""
  else failureText (toString r.failed ++ " of " ++ toString r.total
    ++ " cases did not match their expected outcome") []

/-- The command on a host, for a table. -/
def runTable (setting : Option String) (host : Host) (t : Table) : Transcript :=
  let server := SimServer.new host
  let report := (SimServer.service.run t server).1
  { exit := if report.isSuccess then 0 else 1
    stdout := (reportJson report).pretty ++ "\n"
    stderr := verdictText report
    log := (Filter.ofSetting setting).apply (openingLog t :: SimServer.service.runLog t server) }

/-- The command with a filter setting. -/
def run (setting : Option String) : Transcript :=
  match Builtin.table with
  | .ok t => runTable setting .dualHomed t
  | .error e => ⟨1, "", failureText "STUN field table is malformed" [e.message], []⟩

end ServerTrials.Command.Matrix
