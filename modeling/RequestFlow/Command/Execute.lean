import RequestFlow.Command.Report
import RequestFlow.Command.Vars
import RequestFlow.Document.Reader
import RequestFlow.Plan.Text

/-!
# RequestFlow.Command.Execute

The three commands. All of them read and plan the document first.

* `load`    — the document of a path, and its plan.
* `check`   — compiles the hooks of all leaves.
* `plan`    — shows the plan.
* `run`     — runs the leaves in the order of the plan.
* `execute` — the command that the arguments name.
-/

namespace RequestFlow.Command

open Text.Utf8 (Bytes)

/-- What commands find around them. -/
structure Surroundings where
  fileAt : String → Except FileFault Bytes
  /-- The order in which blocks that are read at a time are done. -/
  schedule : Nat → Nat := Document.inTurn
  host : RunOptions → Host
  clock : Clock

/-! ## Documents -/

inductive LoadError where
  | unreadable (path : String) (fault : FileFault)
  | badDocument (e : DocumentError)
  | badPlan (e : PlanError)
deriving Repr, DecidableEq

namespace LoadError

def message : LoadError → String
  | .unreadable path fault => s!"failed to read {path}: {fault.message}"
  | .badDocument e => s!"parse failed: {e.message}"
  | .badPlan e => s!"resolution failed: {e.message}"

def exit : LoadError → Exit
  | .unreadable _ _ => .unusable
  | .badDocument _ => .invalid
  | .badPlan _ => .invalid

end LoadError

def load (s : Surroundings) (a : Arguments) : Except LoadError (Document × Plan) :=
  match s.fileAt a.path with
  | .error fault => .error (.unreadable a.path fault)
  | .ok bytes =>
    match Document.readPooled a.workers s.schedule bytes with
    | .error e => .error (.badDocument e)
    | .ok d =>
      match d.plan with
      | .error e => .error (.badPlan e)
      | .ok p => .ok (d, p)

def LoadError.output (e : LoadError) (d : Display) : Output :=
  .ofError d e.exit e.message

/-! ## Check -/

/-- What compiling all hooks of a document comes to. -/
structure CheckResult where
  leaves : Nat
  /-- How many leaves have hooks. -/
  hooks : Nat
  errors : List String
deriving Repr, DecidableEq

def checkLeaf (leaf : Leaf) : Option String :=
  match leaf.hooks with
  | .error e => some (Hook.HookError.compile e).message
  | .ok _ => none

def checkDocument (d : Document) : CheckResult :=
  let withHooks := d.leaves.filter (·.hasHooks)
  { leaves := d.leaves.length, hooks := withHooks.length, errors := withHooks.filterMap checkLeaf }

namespace CheckResult

def valid (r : CheckResult) : Bool :=
  r.errors.isEmpty

def json (r : CheckResult) : Json :=
  .obj ([("valid", .bool r.valid), ("leaves", .nat r.leaves), ("hooks", .nat r.hooks)] ++
    if r.valid then [] else [("errors", .arr (r.errors.map .str))])

def exit (r : CheckResult) : Exit :=
  if r.valid then .success else .invalid

def output (r : CheckResult) (d : Display) : Output :=
  if d.quiet then { exit := r.exit }
  else if d.format != .text then { exit := r.exit, stdout := Output.resultText d.format r.json }
  else if r.valid then
    { exit := r.exit, stdout := s!"ok: {r.leaves} leaves, {r.hooks} with hooks\n" }
  else
    { exit := r.exit,
      stderr := "error: hook compilation failed\n" ++
        String.join (r.errors.map fun e => s!"- {e}\n") }

end CheckResult

def check (s : Surroundings) (a : Arguments) : Output :=
  match load s a with
  | .error e => e.output a.display
  | .ok (d, _) => (checkDocument d).output a.display

/-! ## Plan -/

def planJson (p : Plan) : Json :=
  let names (xs : List String) : Json := .arr (xs.map .str)
  .obj [("order", names p.order), ("depends_on", .obj (p.dependsOn.mapValues names)),
    ("levels", .arr (p.levels.map names))]

def planOutput (p : Plan) (path : String) (d : Display) : Output :=
  let shown :=
    match d.format with
    | .text => p.text
    | .json => Output.resultText .json (planJson p)
    | .dot => p.dot ((stem? path).getD "pepper") ++ "\n"
  { exit := .success, stdout := if d.quiet then "" else shown }

def plan (s : Surroundings) (a : Arguments) : Output :=
  match load s a with
  | .error e => e.output a.display
  | .ok (_, p) => planOutput p a.path a.display

/-! ## Run -/

def runOutput (c : Clock) (o : Run.Outcome) (d : Display) : Output :=
  let events := Run.events o.state.trace
  let shown :=
    match d.format with
    | .json => jsonReport c events o.report
    | .text => textReport c events
    | .dot => textReport c events
  { exit := if o.report.isSuccess then .success else .failed,
    stdout := if d.quiet then "" else shown }

/-- Runs a document. Its variables are looked at before the document is. -/
def run (s : Surroundings) (a : Arguments) (o : RunOptions) : Output :=
  match initialVars s.fileAt o with
  | .error e => .ofError a.display .unusable e.message
  | .ok vars =>
    match load s a with
    | .error e => e.output a.display
    | .ok (d, p) =>
      match d.run { s.host o with hookLimit := o.hookLimit } p.order vars with
      | .error e => .ofError a.display .unusable e.message
      | .ok outcome => runOutput s.clock outcome a.display

def execute (s : Surroundings) (a : Arguments) : Output :=
  match a.action with
  | .check => check s a
  | .plan => plan s a
  | .run o => run s a o

end RequestFlow.Command
