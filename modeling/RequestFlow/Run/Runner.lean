import RequestFlow.Run.Leaf

/-!
# RequestFlow.Run.Runner

The leaves of an order, one after the other. A failed mandatory leaf aborts the run, and a
cancelled run stops; the leaves left over are not run.

* `runLeaves` — the leaves from a state on.
* `run`       — a whole run, with its events around the leaves.
-/

namespace RequestFlow

namespace Run

structure Outcome where
  state : State
  report : Report

/-- Runs leaves, numbered from `i` on. -/
def runLeaves (h : Host) (i : Nat) (s : State) : List Leaf → Outcome
  | [] => { state := s, report := ⟨[], none, false, []⟩ }
  | leaf :: rest =>
    let left := rest.map (·.name)
    if s.cancelled then { state := s, report := ⟨[], none, true, leaf.name :: left⟩ }
    else
      let s := s.emit h (.leafStarted leaf.name leaf.isGlobal)
      let (s, record) := runLeaf h leaf [i] s
      let s := s.emit h (.leafFinished record)
      if record.wasCancelled then { state := s, report := ⟨[record], none, true, left⟩ }
      else if leaf.mandatory && !record.passed then
        { state := s.emit h (.runAborted leaf.name),
          report := ⟨[record], some leaf.name, false, left⟩ }
      else
        let o := runLeaves h (i + 1) s rest
        { o with report := { o.report with records := record :: o.report.records } }

/-- Runs leaves between the events of a run's start and end. -/
def runAll (h : Host) (globals : Vars) (leaves : List Leaf) : Outcome :=
  let s := (State.start h globals).emit h (.runStarted leaves.length)
  let o := runLeaves h 0 s leaves
  let s := if o.report.cancelled then o.state.emit h .runCancelled else o.state
  { o with state := s.emit h o.report.finished }

def events (t : Trace) : List Event :=
  t.filterMap fun
    | .event e _ => some e
    | _ => none

def sent (t : Trace) : List Outgoing :=
  t.filterMap fun
    | .sent _ r => some r
    | _ => none

end Run

/-- An order names a leaf that the document does not declare. -/
structure LeafNotFound where
  name : String
deriving Repr, DecidableEq

def LeafNotFound.message (e : LeafNotFound) : String :=
  s!"leaf not found: {e.name}"

namespace Document

def leavesNamed (d : Document) : List String → Except LeafNotFound (List Leaf)
  | [] => .ok []
  | name :: rest =>
    match d.get? name with
    | none => .error ⟨name⟩
    | some leaf =>
      match d.leavesNamed rest with
      | .error e => .error e
      | .ok leaves => .ok (leaf :: leaves)

def run (d : Document) (h : Host) (order : List String) (globals : Vars) :
    Except LeafNotFound Run.Outcome :=
  match d.leavesNamed order with
  | .error e => .error e
  | .ok leaves => .ok (Run.runAll h globals leaves)

end Document

end RequestFlow
