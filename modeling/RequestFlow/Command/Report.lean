import RequestFlow.Command.Clock
import RequestFlow.Json.Printer
import RequestFlow.Run.Runner

/-!
# RequestFlow.Command.Report

How a run is shown: a line for each event that matters to a reader, or each event as a JSON
object and then the report as another.

* `eventLine`  — the line for an event.
* `eventJson`  — an event, its fields in the order of their names.
* `reportJson` — the report, its fields in an order of their own.
-/

namespace RequestFlow.Command

/-! ## Lines -/

/-- The line for the record of a leaf that took `ms` milliseconds. -/
def recordLine (r : Record) (ms : Nat) : String :=
  let verdict := if r.passed then "PASS" else "FAIL"
  let status := (r.httpStatus.map fun n => s!" [{n}]").getD ""
  let fault := (r.error.map fun e => s!": {e.kind} at {r.stage.name}: {e.message}").getD ""
  s!"{verdict} {r.name}{status} ({ms} ms){fault}\n"

def summaryLine (passed failed notRun : Nat) : String :=
  let rest := if 0 < notRun then s!", {notRun} not run" else ""
  s!"{passed} passed, {failed} failed{rest}\n"

/-- The line for an event, if it has one. The global leaf is passed over unless it fails. -/
def eventLine (ms : Nat) : Event → String
  | .runStarted _ => ""
  | .leafStarted _ _ => ""
  | .leafFinished r => if r.isGlobal && r.passed then "" else recordLine r ms
  | .runAborted leaf => s!"aborted: mandatory leaf `{leaf}` failed\n"
  | .runCancelled => "cancelled\n"
  | .runFinished passed failed notRun => summaryLine passed failed notRun

/-! ## JSON -/

def errorFields (r : Record) : List (String × Json) :=
  (r.error.map fun e =>
    ("error", Json.obj [("kind", .str e.kind), ("message", .str e.message)])).toList

def statusFields (r : Record) : List (String × Json) :=
  (r.httpStatus.map fun n => ("http_status", Json.nat n)).toList

def recordFields (r : Record) (ms : Nat) : List (String × Json) :=
  [("name", .str r.name), ("status", .str r.status), ("stage", .str r.stage.name)] ++
    errorFields r ++ statusFields r ++
    [("duration_ms", .nat ms), ("mandatory", .bool r.mandatory), ("implicit", .bool r.isGlobal)]

def eventFields (ms : Nat) : Event → List (String × Json)
  | .runStarted leaves => [("leaves", .nat leaves)]
  | .leafStarted leaf isGlobal => [("leaf", .str leaf), ("implicit", .bool isGlobal)]
  | .leafFinished r => [("record", Json.ofFields (recordFields r ms))]
  | .runAborted leaf => [("leaf", .str leaf)]
  | .runCancelled => []
  | .runFinished passed failed notRun =>
    [("passed", .nat passed), ("failed", .nat failed), ("not_run", .nat notRun)]

def eventJson (runId : String) (ms : Nat) (e : Event) : Json :=
  Json.ofFields (("type", .str e.name) :: ("run_id", .str runId) :: eventFields ms e)

def reportJson (c : Clock) (r : Report) : Json :=
  let records := r.records.zipIdx.map fun (x, i) => Json.obj (recordFields x (c.took i))
  .obj ([("run_id", .str c.runId), ("started_at", .str c.startedAt),
    ("finished_at", .str c.finishedAt), ("records", .arr records)] ++
    (r.abortedBy.map fun leaf => ("aborted_by", Json.str leaf)).toList ++
    [("cancelled", .bool r.cancelled)] ++
    if r.notRun.isEmpty then [] else [("not_run", .arr (r.notRun.map .str))])

/-! ## Whole runs -/

/-- The texts for events; the records among them are numbered from `i` on. -/
def eventTexts (line : Nat → Event → String) (i : Nat) : List Event → List String
  | [] => []
  | e :: rest =>
    line i e ::
      match e with
      | .leafFinished _ => eventTexts line (i + 1) rest
      | _ => eventTexts line i rest

def textReport (c : Clock) (events : List Event) : String :=
  String.join (eventTexts (fun i e => eventLine (c.took i) e) 0 events)

def jsonReport (c : Clock) (events : List Event) (r : Report) : String :=
  String.join (eventTexts (fun i e => (eventJson c.runId (c.took i) e).text ++ "\n") 0 events) ++
    (reportJson c r).text ++ "\n"

end RequestFlow.Command
